import MultiDispatch.Proofs.Toml.Keys
import MultiDispatch.Proofs.Toml.Library
import MultiDispatch.Toml.Decoder

/-! The library that programs are run with does what a library is documented to do. -/
namespace MultiDispatch.Toml

variable {α : Type}

theorem decodeBoolean_eq_ok {v : Value} {b : Bool} : decodeBoolean v = .ok b ↔ v = .boolean b := by
  cases v <;> simp [decodeBoolean, refuse]

theorem decodeVariant_eq_ok {v : Value} {name : String} {content : Option Value} :
    decodeVariant v = .ok (name, content) ↔ v.Selects name content := by
  constructor
  · intro decoded
    unfold decodeVariant at decoded
    split at decoded <;> cases decoded
    · exact .text
    · exact .key _ _
  · rintro (_ | ⟨form, inner⟩) <;> rfl

theorem decodeUnit_eq_ok {v : Value} : decodeUnit v = .ok () ↔ v.Vacant := by
  constructor
  · intro decoded
    unfold decodeUnit at decoded
    split at decoded
    · next items => cases items with
      | nil => exact .tables
      | cons => cases decoded
    · next items => cases items with
      | nil => exact .array
      | cons => cases decoded
    · next entries => cases entries with
      | nil => exact .table _
      | cons => cases decoded
    · cases decoded
  · rintro ⟨⟩ <;> rfl

section Selected

variable {variants : List (String × α)} {v : Value} {name : String} {content : Option Value}
  (selected : decodeVariant v = .ok (name, content))

include selected

theorem decodeEnumeration_unknown (unknown : variants.lookup name = none) :
    decodeEnumeration variants v = refuse (.unknownVariant name (variants.map (·.1))) := by
  simp only [decodeEnumeration, selected, bind, Except.bind, unknown]

theorem decodeEnumeration_known {a : α} (known : variants.lookup name = some a) :
    decodeEnumeration variants v = (content.forM decodeUnit).map fun _ => a := by
  simp only [decodeEnumeration, selected, bind, Except.bind, known]
  cases content.forM decodeUnit <;> rfl

end Selected

theorem library_documented : library.Documented where
  distinct {text root} parsed := by
    have read : document? text = some root := by
      cases found : document? text with
      | none => simp [library, found] at parsed
      | some other => simpa [library, found] using parsed
    exact distinct_document? read
  boolean := decodeBoolean_eq_ok
  variant := decodeVariant_eq_ok
  unit := decodeUnit_eq_ok
  enumeration_refused variants v e refused := by
    show decodeEnumeration variants v = _
    have refused : decodeVariant v = .error e := refused
    rw [decodeEnumeration, refused]
    rfl
  enumeration_unknown selected unknown := ⟨_, decodeEnumeration_unknown selected unknown⟩
  enumeration_bare selected known := decodeEnumeration_known selected known
  enumeration_content selected known := decodeEnumeration_known selected known
  record_nil _ _ := rfl
  record_unknown {σ fields key} unknown s v rest := by
    show ((key, v) :: rest).foldlM (decodeEntry fields) s = _
    rw [List.foldlM_cons, decodeEntry, Field.find?_eq_none unknown]
    rfl
  record_field {σ fields f} once member s v rest _ := by
    show ((f.key, v) :: rest).foldlM (decodeEntry fields) s = _
    rw [List.foldlM_cons, decodeEntry, Field.find?_eq_some once member]
    dsimp only
    cases f.decode v <;> rfl

end MultiDispatch.Toml
