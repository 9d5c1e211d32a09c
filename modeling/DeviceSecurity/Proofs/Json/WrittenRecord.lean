import DeviceSecurity.Proofs.Json.Closure
import DeviceSecurity.Proofs.Json.Record

/-!
# Records as they are written

A record is written as an object with all its fields in order. Such an object is read as the array
of the values would be (`readRecord_zip`), so that a record is read back if every field is, one
after the other. Texts, lists of them and maps to them are read back from what is written for them.
-/

namespace DeviceSecurity.Json

variable {σ α : Type}

/-! ## Fields in order -/

/-- Reading the rest of the members that stand in the order of the fields is reading the rest of the
items. -/
theorem readMembers_zip {fields done rest : List (Field σ)} (hfields : fields = done ++ rest)
    (hnames : (fields.map (·.name)).Nodup) {items : List Json}
    (hlength : items.length = rest.length) {seen : List String}
    (hseen : ∀ name ∈ seen, name ∈ done.map (·.name)) (count : Nat) (record : σ) :
    (·.2) <$> readMembers fields ((rest.map (·.name)).zip items) seen record =
      (·.2) <$> readItems rest items count record := by
  induction rest generalizing done items seen count record with
  | nil =>
    obtain rfl := List.length_eq_zero_iff.mp hlength
    rfl
  | cons field rest ih =>
    cases items with
    | nil => cases hlength
    | cons item items =>
      have hnew : field.name ∉ done.map (·.name) := by
        rw [hfields, List.map_append, List.nodup_append] at hnames
        exact fun hmem => hnames.2.2 _ hmem _ List.mem_cons_self rfl
      have hfind : fields.find? (·.name == field.name) = some field := by
        rw [hfields, List.find?_append, List.find?_eq_none.mpr, Option.none_or,
          List.find?_cons_of_pos (by simp)]
        intro other hother hsame
        exact hnew (List.mem_map.mpr ⟨other, hother, eq_of_beq hsame⟩)
      have hunseen : seen.contains field.name = false := by
        rw [Bool.eq_false_iff, ne_eq, List.contains_iff_mem]
        exact fun hmem => hnew (hseen _ hmem)
      rw [List.map_cons, List.zip_cons_cons, readMembers, hfind]
      simp only [hunseen, Bool.false_eq_true, if_false, readItems]
      cases field.read item record with
      | error misfit => rfl
      | ok updated =>
        have hcut : fields = (done ++ [field]) ++ rest := by simp [hfields]
        refine ih hcut (Nat.succ.inj hlength) ?_ _ _
        intro name hname
        rw [List.map_append, List.mem_append]
        rcases List.mem_cons.mp hname with rfl | hname
        · exact .inr List.mem_cons_self
        · exact .inl (hseen name hname)

/-- A record written with all its fields is read as the array of their values. -/
theorem readRecord_zip {fields : List (Field σ)} (hnames : (fields.map (·.name)).Nodup)
    {items : List Json} (hlength : items.length = fields.length) (name : String) (defaults : σ) :
    readRecord name fields defaults (object ((fields.map (·.name)).zip items)) =
      readRecord name fields defaults (array items) :=
  readMembers_zip (List.nil_append fields).symm hnames hlength (List.forall_mem_nil _) 0 defaults

/-! ## Values of fields -/

theorem readString_string (s : String) : readString (string s) = .ok s := rfl

theorem readWord_whole (n : Nat) : readWord (number (.whole n)) = .ok n := by
  rw [readWord, if_pos (Int.natCast_nonneg n), Int.toNat_natCast]

theorem readOptional_string (o : Option String) :
    readOptional readString ((o.map string).getD null) = .ok o := by
  cases o <;> rfl

theorem readOptional_word (o : Option Nat) :
    readOptional readWord ((o.map fun n : Nat => number (.whole n)).getD null) = .ok o := by
  cases o with
  | none => rfl
  | some n =>
    show some <$> readWord (number (.whole n)) = _
    rw [readWord_whole]
    rfl

/-- Lists are read back if their items are. -/
theorem readList_map {reader : Reader α} {write : α → Json} (hread : ∀ a, reader (write a) = .ok a)
    (l : List α) : readList reader (array (l.map write)) = .ok l := by
  have hpure : reader ∘ write = fun a => pure a := funext hread
  show (l.map write).mapM reader = _
  rw [List.mapM_map, hpure, List.mapM_pure, List.map_id']
  rfl

/-- A sorted map is read back. -/
theorem readMap_map {reader : Reader α} {write : α → Json} (hread : ∀ a, reader (write a) = .ok a)
    {map : Members α} (hsorted : map.Sorted) :
    readMap reader (object (map.map fun m => (m.1, write m.2))) = .ok map := by
  have hfold : ∀ l start : Members α,
      (l.map fun m => (m.1, write m.2)).foldlM
        (fun map m => return map.insert m.1 (← reader m.2)) start =
      .ok (l.foldl (fun map m => map.insert m.1 m.2) start) := by
    intro l
    induction l with
    | nil => exact fun start => rfl
    | cons m l ih =>
      intro start
      rw [List.map_cons, List.foldlM_cons, hread]
      exact ih _
  show (map.map fun m => (m.1, write m.2)).foldlM _ [] = _
  rw [hfold, ← Members.sort, hsorted.sort_eq]

/-! ## Texts of records -/

/-- A value that is read from its text is read by a reader as it stands. -/
theorem readText_text {reader : Reader α} {j : Json} {a : α} (hexact : Exact maxDepth j)
    (hread : reader j = .ok a) (known : List String) : readText reader known j.text = .ok a := by
  rw [readText, parse?_text hexact]
  simp only [hread]

theorem exact_record {d : Nat} {items : List Json} (h : ∀ item ∈ items, Exact d item)
    (names : List String) : Exact (d + 1) (object (names.zip items)) :=
  .object fun m hm => h m.2 (List.of_mem_zip hm).2

theorem exact_getD_null {write : α → Json} {depth : Nat} {o : Option α}
    (h : ∀ a ∈ o, Exact depth (write a)) : Exact depth ((o.map write).getD null) := by
  cases o with
  | none => exact .null
  | some a => exact h a rfl

theorem exact_word {n depth : Nat} (h : n < 2 ^ 64) : Exact depth (number (.whole n)) :=
  .whole (by omega) (by omega)

theorem exact_texts {depth : Nat} (l : List String) : Exact (depth + 1) (array (l.map string)) :=
  .array (List.forall_mem_map.mpr fun s _ => .string s)

end DeviceSecurity.Json
