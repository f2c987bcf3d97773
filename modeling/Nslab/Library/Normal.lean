import Nslab.Library.Schema

/-! Normal forms: the documents of a value and of the same value read back decode
alike. What a codec dumps is therefore a normal form of everything it reads back. -/

namespace Schema

variable {α β : Type}

/-- Entries with their documents decoded. -/
def decodedEntries (entries : List (String × Document)) : List (String × Document) :=
  entries.map fun entry => (entry.1, entry.2.decoded)

/-- The document of a settled value decodes to the same as the document of the value. -/
class Codec.Stable (codec : Codec α) : Prop where
  stable : ∀ sorted value, (codec.dump (codec.settle sorted value)).decoded = (codec.dump value).decoded

/-- The entries of a settled value decode to the same as the entries of the value. -/
class Fields.Stable (fields : Fields α) : Prop where
  stable : ∀ sorted value, decodedEntries (fields.dump (fields.settle sorted value)) = decodedEntries (fields.dump value)

@[simp] theorem decodedEntries_append (left right : List (String × Document)) :
    decodedEntries (left ++ right) = decodedEntries left ++ decodedEntries right := List.map_append

theorem decoded_dict (entries : List (String × Document)) :
    (Document.dict entries).decoded = .dict (Dict.sortEntries (decodedEntries entries)) := by
  simp [Document.decoded, Document.reshape, decodedEntries]

/-- Entries with the same keys in another order decode alike. -/
theorem decoded_perm {left right : List (String × Document)} (perm : left.Perm right) (distinct : (left.map Prod.fst).Nodup) :
    (Document.dict left).decoded = (Document.dict right).decoded := by
  have decoded : (decodedEntries left).Perm (decodedEntries right) := perm.map _
  rw [decoded_dict, decoded_dict, Dict.sortEntries_eq_of_perm decoded]
  simpa [decodedEntries, Function.comp_def] using distinct

namespace Codec

instance (priority := low) {codec : Codec α} [exact : codec.Exact] : codec.Stable :=
  ⟨fun sorted value => by rw [exact.exact]⟩

instance {codec : Codec α} [stable : codec.Stable] {check} {passes} : (codec.before check passes).Stable := ⟨stable.stable⟩

instance {codec : Codec α} [stable : codec.Stable] {check} {extra} {passes} {establishes} :
    (codec.guarded check extra passes establishes).Stable := ⟨stable.stable⟩

instance {codec : Codec α} [stable : codec.Stable] {check} {settled} : (codec.checked check settled).Stable := ⟨stable.stable⟩

instance {codec : Codec α} [stable : codec.Stable] {make : α → β} {back : β → α} {left} :
    (codec.iso make back left).Stable := ⟨fun sorted value => by simp only [iso, left, stable.stable]⟩

instance {codec : Codec α} [stable : codec.Stable] : codec.sequence.Stable where
  stable sorted values := by
    have items := stable.stable sorted
    simp only [Document.decoded] at items
    simp [sequence, Document.decoded, Document.reshape, Function.comp_def, items]

instance {codec : Codec α} [stable : codec.Stable] : codec.mapping.Stable where
  stable sorted dict := by
    have keys : ∀ dict : Dict String α, (dict.entries.map fun entry => (entry.1, codec.dump entry.2)).map Prod.fst =
        dict.keys := fun dict => by simp [Dict.keys, Function.comp_def]
    have perm : ((codec.mapping.settle sorted dict).entries.map fun entry => (entry.1, codec.dump entry.2)).Perm
        ((dict.map fun _ => codec.settle sorted).entries.map fun entry => (entry.1, codec.dump entry.2)) :=
      (Dict.arranged_perm (dict.map fun _ => codec.settle sorted) sorted).map _
    refine (decoded_perm perm (keys _ ▸ Dict.keys_nodup _)).trans ?_
    simp only [mapping, decoded_dict]
    simp [decodedEntries, Dict.map, Function.comp_def, stable.stable]

instance {codec : Codec α} [codec.Stable] {check : String → Except Issue Unit} : (codec.named check).Stable :=
  inferInstanceAs (codec.mapping.checked _ _).Stable

end Codec

namespace Fields

instance (priority := low) {fields : Fields α} [exact : fields.Exact] : fields.Stable :=
  ⟨fun sorted value => by rw [exact.exact]⟩

instance {name : String} {codec : Codec α} [stable : codec.Stable] : (required name codec).Stable :=
  ⟨fun sorted value => by simp [required, decodedEntries, stable.stable]⟩

theorem stable_optional {name : String} {default : α} {codec : Codec α} {skip : α → Bool} {fixed} {valid}
    [stable : codec.Stable] (skips : ∀ sorted value, skip (codec.settle sorted value) = skip value) :
    (optional name default codec skip fixed valid).Stable where
  stable sorted value := by
    simp only [optional, skips]
    split
    · rfl
    · simp [decodedEntries, stable.stable]

instance {name : String} {default : α} {codec : Codec α} {valid} [codec.Stable] :
    (defaulted name default codec valid).Stable := stable_optional fun _ _ => rfl

instance {left : Fields α} {right : Fields β} {apart} [first : left.Stable] [second : right.Stable] :
    (left.and right apart).Stable := ⟨fun sorted value => by simp [Fields.and, first.stable, second.stable]⟩

instance {fields : Fields α} {make : α → β} {back : β → α} {left right} [stable : fields.Stable] :
    (fields.iso make back left right).Stable := ⟨fun sorted value => by simp only [iso, left, stable.stable]⟩

instance {fields : Fields α} [stable : fields.Stable] : fields.object.Stable where
  stable sorted value := by
    simp only [object]
    rw [decoded_dict, decoded_dict, stable.stable]

end Fields

namespace Variants

variable {key : String}

instance {tag : String} {fields : Fields α} {apart} [fields.Stable] : (single tag fields apart : Variants key α).codec.Stable :=
  inferInstanceAs (((Fields.tag key tag).and fields apart).iso Prod.snd (fun value => ((), value))).object.Stable

instance {variants : Variants key α} [stable : variants.codec.Stable] {check} {settled} :
    (variants.checked check settled).codec.Stable := ⟨stable.stable⟩

/-- Completing a value again after reading it back changes nothing. -/
theorem stable_completed {variants : Variants key α} {complete : α → α} {keeps} [stable : variants.codec.Stable]
    (again : ∀ sorted value, complete (variants.codec.settle sorted (complete value)) =
      variants.codec.settle sorted (complete value)) : (variants.completed complete keeps).codec.Stable where
  stable sorted value := by
    simp only [completed, Codec.completed, again, stable.stable]

instance {left : Variants key α} {right : Variants key β} {apart} [first : left.codec.Stable] [second : right.codec.Stable] :
    (left.or right apart).codec.Stable where
  stable sorted value := by
    cases value with
    | inl value => exact first.stable sorted value
    | inr value => exact second.stable sorted value

instance {variants : Variants key α} {make : α → β} {back : β → α} {left} [variants.codec.Stable] :
    (variants.iso make back left).codec.Stable := inferInstanceAs (variants.codec.iso make back left).Stable

instance {variants : Variants key α} [stable : variants.codec.Stable] : variants.union.Stable := ⟨stable.stable⟩

end Variants

end Schema
