import Linkshelf.Proofs.Bookmark.Ids
import Linkshelf.Proofs.Shelf.Saving
import Linkshelf.Web.Router

/-! What requests do to a shelf. Only a request to change it does anything, and its response tells
whether it did: with a success the one change that it asks for is done, and otherwise none. -/
namespace Linkshelf

variable {α β : Type} {u : Supply} {s : Shelf} {d : Disk} {c : Change} {a : Reply}
  {e : ShelfError}

theorem Outcome.shelf_map (f : α → β) (o : Outcome α) : (o.map f).shelf = o.shelf := rfl

theorem Outcome.map_eq_ok {f : α → β} {o : Outcome α} {b : β} (h : (o.map f).result = .ok b) :
    ∃ a, o.result = .ok a ∧ f a = b := by
  cases ho : o.result with
  | error e => simp [Outcome.map, ho, Except.map] at h
  | ok a => exact ⟨a, rfl, by simpa [Outcome.map, ho, Except.map] using h⟩

namespace Change

/-- What a response tells of a change that succeeded. -/
def report : Change → Reply → Json
  | _, .count n => .object [("imported", .natural n)]
  | delete _, .bookmark b => .object [("deleted", .bool true), ("entry", b.toJson)]
  | create _, .bookmark b | update _ _, .bookmark b | replaceAll _, .bookmark b => b.toJson

def status : Change → Nat
  | create _ => 201
  | _ => 200

end Change

namespace Shelf

/-- A report is true of the shelf before a change and the one after it: it is the bookmark that is
now found at its id, the removed one, or the number of all bookmarks. -/
inductive Confirms (s t : Shelf) : Change → Json → Prop
  | created {draft : Draft} {b : Bookmark} : t.get b.id = .ok b → t.list = b :: s.list →
      Confirms s t (.create draft) b.toJson
  | updated {id : String} {draft : Draft} {b : Bookmark} : b.id = id → t.get id = .ok b →
      Confirms s t (.update id draft) b.toJson
  | removed {id : String} {b : Bookmark} : s.get id = .ok b →
      t.list = s.list.eraseP (·.id == id) →
      Confirms s t (.delete id) (.object [("deleted", .bool true), ("entry", b.toJson)])
  | counted {items : List Json} {n : Nat} : n = t.total →
      Confirms s t (.replaceAll items) (.object [("imported", .natural n)])

theorem confirms_perform (h : (c.perform u s d).result = .ok a) :
    Confirms s (c.perform u s d).shelf c (c.report a) := by
  cases c with
  | create draft =>
    obtain ⟨b, hb, rfl⟩ := Outcome.map_eq_ok h
    have hlist := create_made hb
    rw [Change.perform, Outcome.shelf_map, Change.report]
    refine .created ?_ hlist
    rw [get, hlist, List.find?_cons_of_pos (by simp)]
  | update id draft =>
    obtain ⟨b, hb, rfl⟩ := Outcome.map_eq_ok h
    obtain ⟨i, old, fields, hi, hold, -, hmade, hlist⟩ := update_found hb
    have hid : b.id = id := by
      rw [hmade, id_toBookmark]
      simpa using List.find?_some hold
    rw [Change.perform, Outcome.shelf_map, Change.report]
    refine .updated hid ?_
    rw [get, hlist, find?_set_findIdx? hi hid]
  | delete id =>
    obtain ⟨b, hb, rfl⟩ := Outcome.map_eq_ok h
    obtain ⟨hold, hlist⟩ := delete_found hb
    rw [Change.perform, Outcome.shelf_map, Change.report]
    refine .removed ?_ hlist
    rw [get, hold]
  | replaceAll items =>
    obtain ⟨n, hn, rfl⟩ := Outcome.map_eq_ok h
    rw [Change.perform, Outcome.shelf_map, Change.report]
    rw [replaceAll_eq] at hn ⊢
    obtain ⟨rfl, hlist⟩ := commit_ok hn
    refine .counted ?_
    rw [total, hlist]

/-- A change that fails keeps the shelf and what is at its place. -/
theorem perform_failed (h : (c.perform u s d).result = .error e) :
    (c.perform u s d).shelf = s ∧ (d.IsTree →
      ((c.perform u s d).disk.find s.place s.ident).toOption =
        (d.find s.place s.ident).toOption) := by
  rcases perform_cases u s d c with ⟨x, hfail⟩ | ⟨next, b, -, hcommit⟩
  · rw [hfail]
    exact ⟨rfl, fun _ => rfl⟩
  · rw [hcommit] at h ⊢
    exact commit_failed h

end Shelf

namespace Web

variable {r : Request} {route : Route} {folder : Option Place} {reply : Reply}

def Method.changes : Method → Bool
  | post | put | delete => true
  | _ => false

/-- The change that a request asks for. -/
def asked? (r : Request) : Option Change :=
  match r.method, Route.ofPath? r.target.path with
  | .post, some .bookmarks => (Body.draft r.body).toOption.map .create
  | .put, some (.bookmark id) =>
    (Percent.text? id).bind fun id => (Body.draft r.body).toOption.map (.update id)
  | .delete, some (.bookmark id) => (Percent.text? id).map .delete
  | .post, some .imported => ((Body.value r.body).toOption.bind items?).map .replaceAll
  | _, _ => none

/-- A change and the response to it. -/
def Reply.ofChange (u : Supply) (s : Shelf) (d : Disk) (c : Change) : Reply :=
  .ofOutcome (c.perform u s d) fun a => { status := c.status, content := .json (c.report a) }

theorem Reply.ofOutcome_map (f : α → β) (o : Outcome α) (response : β → Response) :
    ofOutcome (o.map f) response = ofOutcome o fun a => response (f a) := by
  cases h : o.result <;> simp [ofOutcome, Outcome.map, h, Except.map]

/-- A request to change the shelf is refused, or it is answered by the change it asks for. -/
inductive Answers (u : Supply) (s : Shelf) (d : Disk) (r : Request) : Reply → Prop
  | refused {response : Response} : response.isSuccess = false →
      Answers u s d r (.still s d response)
  | changed {c : Change} : asked? r = some c → Answers u s d r (.ofChange u s d c)

theorem isSuccess_failure (e : ShelfError) : (failure e).isSuccess = false := by
  cases e <;> rfl

theorem isSuccess_badBody (e : BodyError) : (badBody e).isSuccess = false := by
  cases e <;> rfl

theorem answers_withBody {read : Bytes → Except BodyError α} {use : α → Reply}
    (h : ∀ a, read r.body = .ok a → Answers u s d r (use a)) :
    Answers u s d r (withBody r read (.still s d) use) := by
  rw [withBody]
  split
  · split
    · split
      · next a ha => exact h a ha
      · next e _ => exact .refused (isSuccess_badBody e)
    · exact .refused rfl
  · exact .refused rfl

theorem answers_withId {id : List Char} {use : String → Reply}
    (h : ∀ text, Percent.text? id = some text → Answers u s d r (use text)) :
    Answers u s d r (withId s d id use) := by
  rw [withId]
  split
  · next text htext => exact h text htext
  · exact .refused rfl

theorem createBookmark_eq (u : Supply) (s : Shelf) (d : Disk) (r : Request) :
    createBookmark u s d r =
      withBody r Body.draft (.still s d) fun draft => .ofChange u s d (.create draft) := by
  simp only [Reply.ofChange, Change.perform, Reply.ofOutcome_map]
  rfl

theorem updateBookmark_eq (u : Supply) (s : Shelf) (d : Disk) (r : Request) (id : String) :
    updateBookmark u s d r id =
      withBody r Body.draft (.still s d) fun draft => .ofChange u s d (.update id draft) := by
  simp only [Reply.ofChange, Change.perform, Reply.ofOutcome_map]
  rfl

theorem deleteBookmark_eq (u : Supply) (s : Shelf) (d : Disk) (id : String) :
    deleteBookmark u s d id = .ofChange u s d (.delete id) := by
  rw [Reply.ofChange, Change.perform, Reply.ofOutcome_map]
  rfl

theorem importAll_eq (u : Supply) (s : Shelf) (d : Disk) (r : Request) :
    importAll u s d r = withBody r Body.value (.still s d) fun v =>
      match items? v with
      | none => .still s d noList
      | some items => .ofChange u s d (.replaceAll items) := by
  simp only [Reply.ofChange, Change.perform, Reply.ofOutcome_map]
  rfl

theorem answers_respond (hchanges : r.method.changes = true)
    (hroute : Route.ofPath? r.target.path = some route)
    (hmethod : route.methods.contains r.method = true) :
    Answers u s d r (respond u s d r route) := by
  -- A method that the route does not have would be answered like a `get`.
  cases hm : r.method with
  | get | head | options | other name => simp [hm, Method.changes] at hchanges
  | post =>
    cases route with
    | bookmarks =>
      simp only [respond, hm, createBookmark_eq]
      refine answers_withBody fun draft hdraft => .changed ?_
      simp [asked?, hm, hroute, hdraft, Except.toOption]
    | imported =>
      simp only [respond, hm, importAll_eq]
      refine answers_withBody fun v hv => ?_
      cases hitems : items? v with
      | none => exact .refused rfl
      | some items =>
        refine .changed ?_
        simp [asked?, hm, hroute, hv, hitems, Except.toOption]
    | _ => simp [hm, Route.methods] at hmethod
  | put =>
    cases route with
    | bookmark id =>
      simp only [respond, hm]
      refine answers_withId fun text htext => ?_
      rw [updateBookmark_eq]
      refine answers_withBody fun draft hdraft => .changed ?_
      simp [asked?, hm, hroute, htext, hdraft, Except.toOption]
    | _ => simp [hm, Route.methods] at hmethod
  | delete =>
    cases route with
    | bookmark id =>
      simp only [respond, hm]
      refine answers_withId fun text htext => ?_
      rw [deleteBookmark_eq]
      refine .changed ?_
      simp [asked?, hm, hroute, htext]
    | _ => simp [hm, Route.methods] at hmethod

theorem answers_route (hchanges : r.method.changes = true) :
    Answers u s d r (Web.route u s d folder r) := by
  unfold Web.route
  split
  · next route hroute =>
    split
    · next hmethod => exact answers_respond hchanges hroute hmethod
    · exact .refused rfl
  · split
    · next folder =>
      have hanswer : Files.answer d folder r.method r.target = Files.notAllowed := by
        cases hm : r.method <;> simp_all [Files.answer, Method.changes]
      rw [hanswer]
      exact .refused rfl
    · exact .refused rfl

theorem answers_handle (hchanges : r.method.changes = true) :
    Answers u s d r (handle u s d folder r) := by
  have hhead : r.method ≠ .head := by
    intro hm
    simp [hm, Method.changes] at hchanges
  simp only [handle, hhead, if_false]
  exact answers_route hchanges

theorem respond_still (h : r.method.changes = false) (route : Route) :
    ∃ response, respond u s d r route = .still s d response := by
  cases hm : r.method with
  | post | put | delete => simp [hm, Method.changes] at h
  | options => exact ⟨_, by simp only [respond, hm]; rfl⟩
  | get | head | other name => exact ⟨_, by simp only [respond, hm]; rfl⟩

/-- A request that is not for a change leaves shelf and disk as they are. -/
theorem handle_still (h : r.method.changes = false) :
    (handle u s d folder r).shelf = s ∧ (handle u s d folder r).disk = d := by
  have hroute : ∃ response, Web.route u s d folder r = .still s d response := by
    unfold Web.route
    split
    · split
      · exact respond_still h _
      · exact ⟨_, rfl⟩
    · split <;> exact ⟨_, rfl⟩
  obtain ⟨response, hresponse⟩ := hroute
  rw [handle, hresponse]
  split <;> exact ⟨rfl, rfl⟩

theorem Reply.ofChange_cases (u : Supply) (s : Shelf) (d : Disk) (c : Change) :
    (∃ e, (c.perform u s d).result = .error e ∧
      ofChange u s d c = ⟨failure e, (c.perform u s d).shelf, (c.perform u s d).disk⟩) ∨
    ∃ a, (c.perform u s d).result = .ok a ∧
      ofChange u s d c = ⟨{ status := c.status, content := .json (c.report a) },
        (c.perform u s d).shelf, (c.perform u s d).disk⟩ := by
  cases h : (c.perform u s d).result with
  | error e => exact Or.inl ⟨e, rfl, by rw [ofChange, ofOutcome, h]⟩
  | ok a => exact Or.inr ⟨a, rfl, by rw [ofChange, ofOutcome, h]⟩

theorem isSuccess_status (c : Change) (v : Json) :
    Response.isSuccess { status := c.status, content := .json v } = true := by
  cases c <;> rfl

theorem Answers.kept (h : Answers u s d r reply) (hfailure : reply.response.isSuccess = false) :
    reply.shelf = s ∧ (d.IsTree →
      (reply.disk.find s.place s.ident).toOption = (d.find s.place s.ident).toOption) := by
  cases h with
  | refused _ => exact ⟨rfl, fun _ => rfl⟩
  | @changed c hasked =>
    rcases Reply.ofChange_cases u s d c with ⟨e, herror, hreply⟩ | ⟨a, -, hreply⟩
    · rw [hreply]
      exact Shelf.perform_failed herror
    · rw [hreply, isSuccess_status] at hfailure
      cases hfailure

theorem Answers.done (h : Answers u s d r reply) (hsuccess : reply.response.isSuccess = true) :
    ∃ c a, asked? r = some c ∧ c.perform u s d = ⟨.ok a, reply.shelf, reply.disk⟩ ∧
      reply.response.body = Utf8.encode (c.report a).line ∧
      s.Confirms reply.shelf c (c.report a) := by
  cases h with
  | refused hfailure =>
    rw [Reply.still, hfailure] at hsuccess
    cases hsuccess
  | @changed c hasked =>
    rcases Reply.ofChange_cases u s d c with ⟨e, -, hreply⟩ | ⟨a, hok, hreply⟩
    · rw [hreply, isSuccess_failure] at hsuccess
      cases hsuccess
    · rw [hreply]
      exact ⟨c, a, hasked, by rw [← hok], rfl, Shelf.confirms_perform hok⟩

/-- A request that is not for a change leaves shelf and disk as they are. One without a success
leaves the shelf and what is at its place. One for a change, with a success, leaves exactly what the
change that it asks for leaves, and its body is the report of that change, which is true. -/
theorem handle_effects (u : Supply) (s : Shelf) (d : Disk) (folder : Option Place) (r : Request) :
    (r.method.changes = false →
      (handle u s d folder r).shelf = s ∧ (handle u s d folder r).disk = d) ∧
    ((handle u s d folder r).response.isSuccess = false →
      (handle u s d folder r).shelf = s ∧ (d.IsTree →
        ((handle u s d folder r).disk.find s.place s.ident).toOption =
          (d.find s.place s.ident).toOption)) ∧
    (r.method.changes = true → (handle u s d folder r).response.isSuccess = true →
      ∃ c a, asked? r = some c ∧
        c.perform u s d = ⟨.ok a, (handle u s d folder r).shelf, (handle u s d folder r).disk⟩ ∧
        (handle u s d folder r).response.body = Utf8.encode (c.report a).line ∧
        s.Confirms (handle u s d folder r).shelf c (c.report a)) := by
  refine ⟨handle_still, ?_, fun hchanges => (answers_handle hchanges).done⟩
  intro hfailure
  cases hchanges : r.method.changes with
  | true => exact (answers_handle hchanges).kept hfailure
  | false =>
    obtain ⟨hshelf, hdisk⟩ :
        (handle u s d folder r).shelf = s ∧ (handle u s d folder r).disk = d :=
      handle_still hchanges
    rw [hdisk]
    exact ⟨hshelf, fun _ => rfl⟩

/-- The same request brings the first bookmark onto a shelf, and nothing where a folder has the name
of the file; the temporary file stays there. -/
theorem handle_effects_create :
    ∃ (u : Supply) (s : Shelf) (d : Disk) (r : Request) (b : Bookmark) (c : Change)
      (a : Linkshelf.Reply), r.method.changes = true ∧
      (handle u s .empty none r).response.status = 201 ∧
      (handle u s .empty none r).shelf.list = [b] ∧ asked? r = some c ∧
      (handle u s .empty none r).response.body = Utf8.encode (c.report a).line ∧
      s.Confirms (handle u s .empty none r).shelf c (c.report a) ∧
      d.IsTree ∧ (handle u s d none r).response.status = 500 ∧ (handle u s d none r).disk ≠ d ∧
      (handle u s d none r).shelf = s ∧
      ((handle u s d none r).disk.find s.place s.ident).toOption = some .folder := by
  let u := Shelf.growing
  let s : Shelf := ⟨[], "data.json", .empty "dawn"⟩
  let d : Disk := ⟨[(["data.json"], .folder)]⟩
  let r : Request := ⟨.post, .ofString "/api/entries", some "application/json",
    Utf8.encode "\x7b\"url\": \"https://a\"\x7d"⟩
  let b : Bookmark := ⟨"n", "noon", "noon", "https://a", "https://a", "", "", []⟩
  have hcreated : (handle u s .empty none r).response.status = 201 := by decide +kernel
  have hsuccess : (handle u s .empty none r).response.isSuccess = true := by decide +kernel
  have hlist : (handle u s .empty none r).shelf.list = [b] := by decide +kernel
  have htree : d.IsTree := by decide +kernel
  have hfailed : (handle u s d none r).response.status = 500 := by decide +kernel
  have hfailure : (handle u s d none r).response.isSuccess = false := by decide +kernel
  have hleft : (handle u s d none r).disk ≠ d := by decide +kernel
  have hfolder : (d.find s.place s.ident).toOption = some .folder := by decide +kernel
  obtain ⟨c, a, hasked, -, hbody, htrue⟩ := (handle_effects u s .empty none r).2.2 rfl hsuccess
  obtain ⟨hshelf, hfind⟩ := (handle_effects u s d none r).2.1 hfailure
  exact ⟨u, s, d, r, b, c, a, rfl, hcreated, hlist, hasked, hbody, htrue, htree, hfailed, hleft,
    hshelf, (hfind htree).trans hfolder⟩

end Web
end Linkshelf
