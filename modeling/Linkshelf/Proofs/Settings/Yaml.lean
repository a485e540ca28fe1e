import Linkshelf.Proofs.Yaml.Fields
import Linkshelf.Settings.Yaml

/-! Settings written in YAML are read as the same settings, whatever characters they have. -/
namespace Linkshelf.Settings

theorem isName_fields (s : Settings) : ∀ f ∈ s.fields, Yaml.IsName f.1.toList := by
  have hchars : ["listen_addr", "data_file", "static_dir", "default_path"].all (fun key =>
      !key.toList.isEmpty && key.toList.all Yaml.isNameChar) = true := by decide +kernel
  have hnames : ∀ key ∈ ["listen_addr", "data_file", "static_dir", "default_path"],
      Yaml.IsName key.toList := by
    intro key hkey
    have hall := List.all_eq_true.mp hchars key hkey
    simp only [Bool.and_eq_true, Bool.not_eq_true', List.isEmpty_eq_false_iff,
      List.all_eq_true] at hall
    exact hall
  obtain ⟨address, file, folder, path⟩ := s
  intro f hf
  apply hnames
  cases folder with
  | none =>
    simp only [fields, Option.map_none, Option.toList_none, List.append_nil, List.cons_append,
      List.nil_append, List.mem_cons, List.not_mem_nil, or_false] at hf
    rcases hf with rfl | rfl | rfl <;> simp
  | some folder =>
    simp only [fields, Option.map_some, Option.toList_some, List.cons_append, List.nil_append,
      List.mem_cons, List.not_mem_nil, or_false] at hf
    rcases hf with rfl | rfl | rfl | rfl <;> simp

/-- Text that is spelled plainly does not stand for nothing. -/
theorem isNull_value (v : List Char) :
    isNull (.scalar (Yaml.style v = .plain) v) = false := by
  rcases Yaml.style_cases v with ⟨hstyle, -, hambiguous, -⟩ | ⟨hstyle, -⟩ | ⟨hstyle, -⟩ | hstyle
  · have hnot : ∀ word ∈ ["", "~", "null", "Null", "NULL"], v ≠ word.toList := by
      rintro word hword rfl
      revert hambiguous
      revert word
      decide +kernel
    have hempty : v.isEmpty = false := by
      rw [List.isEmpty_eq_false_iff]
      exact hnot "" (by simp)
    have hword (word : String) (hword : word ∈ ["", "~", "null", "Null", "NULL"]) :
        String.ofList v ≠ word := by
      rintro rfl
      exact hnot _ hword String.toList_ofList.symm
    simp [hstyle, isNull, hempty, hword]
  · simp [hstyle, isNull]
  · simp [hstyle, isNull]
  · simp [hstyle, isNull]

theorem ofYaml?_fields (s : Settings) :
    (ofYaml? (.mapping (s.fields.map Yaml.member))).map Given.settings = some s := by
  obtain ⟨address, file, folder, path⟩ := s
  cases folder with
  | none => simp [ofYaml?, fields, named?, text?, Yaml.member, pick, Given.settings]
  | some folder =>
    simp [ofYaml?, fields, named?, text?, Yaml.member, pick, optionalText?, isNull_value,
      Given.settings]

theorem isFaithful_yaml : yaml.IsFaithful := by
  intro s
  have hread : yaml.read? (yaml.write s.fields) =
      (Yaml.read? (Yaml.fieldsText s.fields)).bind ofYaml? := by
    simp only [yaml, String.toList_ofList]
  rw [hread, Yaml.read?_fieldsText (by simp [fields]) s.isName_fields, Option.bind_some,
    ofYaml?_fields]

end Linkshelf.Settings
