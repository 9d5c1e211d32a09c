import DeviceSecurity.Json.Reader
import DeviceSecurity.Proofs.Json.Canonical
import DeviceSecurity.Proofs.Result

/-!
# What holds of a record read

Reading a record updates it field by field, so a property of the defaults that every field keeps is
one of the record read, in whatever order the members of the text stand (`of_readRecord`). Maps are
read sorted (`sorted_of_readMap`).
-/

namespace DeviceSecurity.Json

variable {σ : Type} {P : σ → Prop} {fields : List (Field σ)}

/-- Reading the field into a record with the property gives another one. -/
def Field.Keeps (P : σ → Prop) (field : Field σ) : Prop :=
  ∀ {value record updated}, P record → field.read value record = .ok updated → P updated

theorem of_readMembers (hfields : ∀ field ∈ fields, field.Keeps P)
    {members : List (String × Json)} {seen : List String} {record : σ} {result : List String × σ}
    (h : readMembers fields members seen record = .ok result) (hrecord : P record) :
    P result.2 := by
  induction members generalizing seen record with
  | nil =>
    obtain rfl := Except.ok.inj h
    exact hrecord
  | cons m rest ih =>
    obtain ⟨key, value⟩ := m
    rw [readMembers] at h
    split at h
    · exact ih h hrecord
    · next field hfind =>
      split at h
      · cases h
      · obtain ⟨updated, hread, h⟩ := bind_eq_ok.mp h
        exact ih h (hfields field (List.mem_of_find?_eq_some hfind) hrecord hread)

theorem of_readItems (hfields : ∀ field ∈ fields, field.Keeps P) {items : List Json} {count : Nat}
    {record : σ} {result : Nat × σ} (h : readItems fields items count record = .ok result)
    (hrecord : P record) : P result.2 := by
  induction fields generalizing items count record with
  | nil =>
    cases items with
    | nil =>
      obtain rfl := Except.ok.inj h
      exact hrecord
    | cons => cases h
  | cons field fields ih =>
    obtain ⟨hfield, hfields⟩ := List.forall_mem_cons.mp hfields
    cases items with
    | nil =>
      obtain rfl := Except.ok.inj h
      exact hrecord
    | cons item items =>
      obtain ⟨updated, hread, h⟩ := bind_eq_ok.mp h
      exact ih hfields h (hfield hrecord hread)

/-- What the defaults have and every field keeps, the record has. -/
theorem of_readRecord (hfields : ∀ field ∈ fields, field.Keeps P) {name : String} {defaults : σ}
    (hdefaults : P defaults) {j : Json} {record : σ}
    (h : readRecord name fields defaults j = .ok record) : P record := by
  cases j with
  | object members =>
    obtain ⟨result, hread, rfl⟩ := map_eq_ok.mp h
    exact of_readMembers hfields hread hdefaults
  | array items =>
    obtain ⟨result, hread, rfl⟩ := map_eq_ok.mp h
    exact of_readItems hfields hread hdefaults
  | _ => cases h

/-- What a text is read as was read from a value. -/
theorem exists_of_readText {α : Type} {reader : Reader α} {known : List String} {text : String}
    {a : α} (h : readText reader known text = .ok a) : ∃ j, reader j = .ok a := by
  unfold readText at h
  split at h
  · next j _ =>
    split at h
    · next hread => exact ⟨j, hread.trans (congrArg _ (Except.ok.inj h))⟩
    · cases h
  · split at h
    · next hskip =>
      obtain ⟨j, -, hread⟩ := Option.map_eq_some_iff.mp hskip
      exact ⟨j, hread.trans (congrArg _ (Except.ok.inj h))⟩
    · cases h

theorem sorted_of_readMap {α : Type} {reader : Reader α} {j : Json} {map : Members α}
    (h : readMap reader j = .ok map) : map.Sorted := by
  have hfold : ∀ (members : List (String × Json)) (start : Members α), start.Sorted →
      members.foldlM (fun map m => return map.insert m.1 (← reader m.2)) start = .ok map →
      map.Sorted := by
    intro members
    induction members with
    | nil =>
      intro start hstart hresult
      obtain rfl := Except.ok.inj hresult
      exact hstart
    | cons m members ih =>
      intro start hstart hresult
      rw [List.foldlM_cons] at hresult
      obtain ⟨next, hnext, hresult⟩ := bind_eq_ok.mp hresult
      obtain ⟨value, -, hinsert⟩ := bind_eq_ok.mp hnext
      obtain rfl := Except.ok.inj hinsert
      exact ih _ (hstart.insert m.1 value) hresult
  cases j with
  | object members => exact hfold members [] List.Pairwise.nil h
  | _ => cases h

end DeviceSecurity.Json
