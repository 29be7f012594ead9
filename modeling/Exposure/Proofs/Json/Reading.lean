import Exposure.Json.Reader
import Exposure.Proofs.Json.Members

/-!
Values that are read from text have no repeated keys: a key that occurs again only changes the
value under it.
-/
namespace Exposure

theorem Text.fromUTF8?_toUTF8 (text : String) : String.fromUTF8? text.toUTF8 = some text := by
  rw [String.fromUTF8?, String.toUTF8_eq_toByteArray, dif_pos text.isValidUTF8]
  rfl

namespace Json

theorem distinct_of_members?_eq_none {v : Json} (h : v.members? = none) : Distinct v := by
  rintro inner rfl
  cases h

namespace Reader

theorem members?_number? {range : IntegerRange} {negative : Bool} {s r : List Char} {v : Json}
    (h : number? range negative s = some (v, r)) : v.members? = none := by
  unfold number? at h
  dsimp only at h
  split at h
  · cases h
  · obtain ⟨⟨fraction, r₁, fractional⟩, -, h⟩ := Option.bind_eq_some_iff.1 h
    obtain ⟨⟨exponent, r₂, exponential⟩, -, h⟩ := Option.bind_eq_some_iff.1 h
    dsimp only at h
    split at h
    · obtain ⟨x, -, hx⟩ := Option.map_eq_some_iff.1 h
      cases hx
      rfl
    · generalize (if negative = true then -(natOfDigits (digits s).1 : Int)
        else natOfDigits (digits s).1) = signed at h
      split at h
      · cases h
        rfl
      · obtain ⟨x, -, hx⟩ := Option.map_eq_some_iff.1 h
        cases hx
        rfl

theorem members?_items {range : IntegerRange} {fuel depth : Nat} {done : List Json}
    {s r : List Char} {v : Json} (h : items range fuel depth done s = some (v, r)) :
    v.members? = none := by
  induction fuel generalizing done s with
  | zero => cases h
  | succ fuel ih =>
      rw [items] at h
      cases hv : value range fuel depth s with
      | none => simp [hv] at h
      | some p =>
          rw [hv] at h
          dsimp only at h
          split at h
          · exact ih h
          · cases h
            rfl
          · cases h

/-- Objects are put together member by member, so that none gets a key twice. -/
theorem distinct_read {range : IntegerRange} (fuel : Nat) :
    (∀ depth s v r, value range fuel depth s = some (v, r) → Distinct v) ∧
    (∀ depth done s v r, DistinctMembers done →
      members range fuel depth done s = some (v, r) → Distinct v) := by
  -- The readers of values and of members call each other: one induction on the fuel carries both.
  induction fuel with
  | zero =>
      constructor
      · intro depth s v r h
        cases h
      · intro depth done s v r _ h
        cases h
  | succ fuel ih =>
      obtain ⟨ihvalue, ihmembers⟩ := ih
      constructor
      · intro depth s v r h
        unfold value at h
        split at h
        · cases h
          exact distinct_of_members?_eq_none rfl
        · cases h
          exact distinct_of_members?_eq_none rfl
        · cases h
          exact distinct_of_members?_eq_none rfl
        · obtain ⟨p, -, hp⟩ := Option.map_eq_some_iff.1 h
          cases hp
          exact distinct_of_members?_eq_none rfl
        · exact distinct_of_members?_eq_none (members?_number? h)
        · split at h
          · cases h
          · cases h
            exact distinct_of_members?_eq_none rfl
          · exact distinct_of_members?_eq_none (members?_items h)
        · split at h
          · cases h
          · cases h
            intro inner hinner
            cases hinner
            exact .nil
          · exact ihmembers _ [] _ v r .nil h
        · exact distinct_of_members?_eq_none (members?_number? h)
      · intro depth done s v r hdone h
        unfold members at h
        split at h
        · split at h
          · cases h
          · rename_i key rest _
            split at h
            · split at h
              · cases h
              · rename_i hv
                have hput := hdone.put key (ihvalue _ _ _ _ hv)
                split at h
                · exact ihmembers _ _ _ v r hput h
                · cases h
                  intro inner hinner
                  cases hinner
                  exact hput
                · cases h
            · cases h
        · cases h

end Reader

/-- A JSON text has no object that repeats a key. -/
theorem distinct_ofBytes? {range : IntegerRange} {bytes : ByteArray} {v : Json}
    (h : ofBytes? range bytes = some v) : Distinct v := by
  obtain ⟨text, -, htext⟩ := Option.bind_eq_some_iff.1 h
  unfold ofText? at htext
  dsimp only at htext
  split at htext
  · rename_i w r hread
    split at htext
    · cases htext
      exact (Reader.distinct_read _).1 _ _ _ _ hread
    · cases htext
  · cases htext

theorem ofBytes?_toUTF8 (range : IntegerRange) (text : String) :
    ofBytes? range text.toUTF8 = ofText? range text := by
  rw [ofBytes?, Text.fromUTF8?_toUTF8]
  rfl

end Json
end Exposure
