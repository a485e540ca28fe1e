import Mathlib.Data.String.Basic
import Linkshelf.Proofs.Text.Pieces
import Linkshelf.Text.Ulid

/-! Marks and the ids of new bookmarks: how long they are, and of which characters they are made. -/
namespace Linkshelf.Ulid

variable {n width millis random : Nat} {c : Char}

theorem length_reversed (n width : Nat) : (reversed n width).length = width := by
  induction width generalizing n with
  | zero => rfl
  | succ width ih => rw [reversed, List.length_cons, ih]

theorem mem_reversed (h : c ∈ reversed n width) : c ∈ digits := by
  induction width generalizing n with
  | zero => simp [reversed] at h
  | succ width ih =>
    rw [reversed, List.mem_cons] at h
    rcases h with rfl | h
    · cases hd : digits[n % 32]? with
      | none =>
        rw [Option.getD_none]
        decide +kernel
      | some d =>
        rw [Option.getD_some]
        exact List.mem_of_getElem? hd
    · exact ih h

theorem mem_text (h : c ∈ (text millis random).toList) : c ∈ digits := by
  rw [text, String.toList_ofList, List.mem_reverse] at h
  exact mem_reversed h

theorem length_text (millis random : Nat) : (text millis random).length = 26 := by
  rw [text, String.length_ofList, List.length_reverse, length_reversed]

theorem utf8Len_of_forall {cs : List Char} (h : ∀ c ∈ cs, c.utf8Size = 1) :
    String.utf8Len cs = cs.length := by
  induction cs with
  | nil => rfl
  | cons c cs ih =>
    have hc := h c List.mem_cons_self
    have hcs := ih fun x hx => h x (List.mem_cons_of_mem c hx)
    rw [String.utf8Len_cons, hc, hcs, List.length_cons]

theorem utf8ByteSize_text (millis random : Nat) : (text millis random).utf8ByteSize = 26 := by
  have hdigits : digits.all (fun c => c.utf8Size == 1) = true := by decide +kernel
  have hsize : ∀ c ∈ (text millis random).toList, c.utf8Size = 1 := fun c hc => by
    simpa using List.all_eq_true.mp hdigits c (mem_text hc)
  rw [← String.ofList_toList (s := text millis random), String.utf8ByteSize_ofList,
    utf8Len_of_forall hsize, String.length_toList, length_text]

theorem toList_bookmarkId (millis random : Nat) :
    (bookmarkId millis random).toList =
      'e' :: '-' :: (text millis random).toList.map Char.toLower := by
  have hstart : "e-".toList = ['e', '-'] := by decide +kernel
  rw [bookmarkId, String.toList_append, hstart, String.toList_ofList, List.cons_append,
    List.cons_append, List.nil_append]

theorem length_bookmarkId (millis random : Nat) : (bookmarkId millis random).length = 28 := by
  rw [← String.length_toList, toList_bookmarkId, List.length_cons, List.length_cons,
    List.length_map, String.length_toList, length_text]

theorem isSolid_bookmarkId (millis random : Nat) :
    Chars.IsSolid (bookmarkId millis random).toList := by
  rw [toList_bookmarkId]
  refine Chars.isSolid_of_forall (List.cons_ne_nil _ _) fun c hc => ?_
  simp only [List.mem_cons, List.mem_map] at hc
  rcases hc with rfl | rfl | ⟨d, hd, rfl⟩
  · decide
  · decide
  · have hdigits : digits.all (fun d => !isBlank d.toLower) = true := by decide +kernel
    simpa using List.all_eq_true.mp hdigits d (mem_text hd)

end Linkshelf.Ulid
