import DispatchScan.Abi
import DispatchScan.Proofs.Declaration.Grammar

/-!
# The grammar of ABIs

Which JSON values describe an ABI, stated without the order in which they are read, and which fault
the others have. Main statement: reading gives exactly what the grammar says, for every value: the
described functions in order, or the first fault of the first entry with one.
-/

namespace DispatchScan

open Json

namespace Abi

/-- An entry that an array may hold without declaring a function: an object with a type other than
`function`. -/
def IsSkipped (entry : Value) : Prop :=
  ∃ members type, entry = .object members ∧ lookup? "type" members = some type ∧
    type ≠ .string "function"

/-- The entries that do not count are the skipped ones. -/
theorem isFunctionEntry_eq_false_iff {entry : Value} :
    isFunctionEntry entry = false ↔ IsSkipped entry := by
  unfold isFunctionEntry
  cases htype : entry.get? "type" with
  | none =>
    constructor
    · exact nofun
    · rintro ⟨members, type, rfl, hlookup, -⟩
      exact absurd (htype.symm.trans hlookup) (by simp)
  | some type =>
    have hfunction : (type.text? == some "function") = false ↔ type ≠ .string "function" := by
      cases type <;> simp [Value.text?]
    rw [hfunction]
    constructor
    · intro hne
      cases entry with
      | object members => exact ⟨members, type, rfl, htype, hne⟩
      | _ => exact absurd htype (by simp [Value.get?])
    · rintro ⟨members, type', rfl, hlookup, hne⟩
      obtain rfl := Option.some.inj (htype.symm.trans hlookup)
      exact hne

instance : DecidablePred IsSkipped := fun _ => decidable_of_iff _ isFunctionEntry_eq_false_iff

/-- The entries of an array that declare functions, in order. -/
def kept (entries : List Value) : List Value :=
  entries.filter fun entry => ¬IsSkipped entry

/-- The entries that are read are those that are not skipped. -/
theorem filter_isFunctionEntry (entries : List Value) :
    entries.filter isFunctionEntry = kept entries := by
  refine List.filter_congr fun entry _ => ?_
  rw [Bool.eq_iff_iff, decide_eq_true_iff, ← isFunctionEntry_eq_false_iff, Bool.not_eq_false]

/-- Entries are read exactly when each describes a function. -/
theorem declarations_eq_ok_iff {entries : List Value} {ds : List Declaration} :
    declarations entries = .ok ds ↔ List.Forall₂ Declaration.IsDeclaration entries ds := by
  induction entries generalizing ds with
  | nil =>
    rw [declarations, Except.ok.injEq, List.forall₂_nil_left_iff]
    exact eq_comm
  | cons entry entries ih =>
    rw [declarations, List.forall₂_cons_left_iff]
    cases hentry : Declaration.ofJson entry with
    | error fault =>
      constructor
      · exact nofun
      · rintro ⟨d, rest, hd, -⟩
        exact absurd (hentry.symm.trans (Declaration.ofJson_eq_ok_iff.mpr hd)) (by simp)
    | ok d =>
      rw [map_eq_ok_iff]
      constructor
      · rintro ⟨rest, hrest, rfl⟩
        exact ⟨d, rest, Declaration.ofJson_eq_ok_iff.mp hentry, ih.mp hrest, rfl⟩
      · rintro ⟨d', rest, hd, hrest, rfl⟩
        obtain rfl := Except.ok.inj (hentry.symm.trans (Declaration.ofJson_eq_ok_iff.mpr hd))
        exact ⟨rest, ih.mpr hrest, rfl⟩

/-- Entries are refused exactly for the fault of the first one that describes no function. -/
theorem declarations_eq_error_iff {entries : List Value} {fault : SpecificationFault} :
    declarations entries = .error fault ↔
      ∃ before entry after, entries = before ++ entry :: after ∧
        (∀ earlier ∈ before, ∃ d, Declaration.IsDeclaration earlier d) ∧
        Declaration.HasFault entry fault := by
  induction entries with
  | nil =>
    constructor
    · exact nofun
    · rintro ⟨before, entry, after, hsplit, -⟩
      exact absurd hsplit (by simp)
  | cons entry entries ih =>
    rw [declarations]
    cases hentry : Declaration.ofJson entry with
    | error found =>
      have hbad : ¬∃ d, Declaration.IsDeclaration entry d :=
        Declaration.exists_hasFault_iff.mp ⟨found, Declaration.ofJson_eq_error_iff.mp hentry⟩
      have hfirst := exists_first_cons_iff_of_not_good
        (fun entry => ∃ d, Declaration.IsDeclaration entry d)
        (fun _ entry => Declaration.HasFault entry fault) hbad entries
      rw [hfirst, ← Declaration.ofJson_eq_error_iff, hentry, Except.error.injEq, Except.error.injEq]
    | ok d =>
      have hgood : ∃ d, Declaration.IsDeclaration entry d :=
        ⟨d, Declaration.ofJson_eq_ok_iff.mp hentry⟩
      have hnext := exists_first_cons_iff_of_good
        (fun entry => ∃ d, Declaration.IsDeclaration entry d)
        (fun _ entry => Declaration.HasFault entry fault) hgood
        (fun hbad => Declaration.exists_hasFault_iff.mp ⟨fault, hbad⟩ hgood) entries
      rw [map_eq_error_iff, ih, hnext]

/-- What a value says as an ABI: the functions that it describes, or its first fault. -/
inductive Reading : Value → Except CheckError Abi → Prop where
  /-- Nothing is given. -/
  | nothing : Reading .null (.error (.missing .abi))
  /-- An object is one function, whatever its type says. -/
  | single {members : List (String × Value)} {d : Declaration} :
    Declaration.IsDeclaration (.object members) d → Reading (.object members) (.ok ⟨[d]⟩)
  /-- An object that describes no function. -/
  | badSingle {members : List (String × Value)} {fault : SpecificationFault} :
    Declaration.HasFault (.object members) fault →
    Reading (.object members) (.error (.specification fault))
  /-- An array is the functions that its kept entries describe, in order. -/
  | list {entries : List Value} {ds : List Declaration} :
    List.Forall₂ Declaration.IsDeclaration (kept entries) ds → Reading (.array entries) (.ok ⟨ds⟩)
  /-- The first kept entry of an array that describes no function. -/
  | badEntry {entries before after : List Value} {entry : Value} {fault : SpecificationFault} :
    kept entries = before ++ entry :: after →
    (∀ earlier ∈ before, ∃ d, Declaration.IsDeclaration earlier d) →
    Declaration.HasFault entry fault → Reading (.array entries) (.error (.specification fault))
  /-- Any other value. -/
  | other {v : Value} : v ≠ .null → (∀ members, v ≠ .object members) →
    (∀ entries, v ≠ .array entries) → Reading v (.error (.specification .notAnAbi))

/-- An array is read by its kept entries. -/
theorem ofJson_array (entries : List Value) :
    ofJson (.array entries) =
      ((declarations (kept entries)).mapError CheckError.specification).map Abi.mk := by
  rw [ofJson, filter_isFunctionEntry]

/-- Reading gives what a value says. -/
theorem reading_ofJson (v : Value) : Reading v (ofJson v) := by
  cases v with
  | null => exact .nothing
  | object members =>
    rw [ofJson]
    cases hobject : Declaration.ofJson (.object members) with
    | ok d => exact .single (Declaration.ofJson_eq_ok_iff.mp hobject)
    | error fault => exact .badSingle (Declaration.ofJson_eq_error_iff.mp hobject)
  | array entries =>
    rw [ofJson_array]
    cases hentries : declarations (kept entries) with
    | ok ds => exact .list (declarations_eq_ok_iff.mp hentries)
    | error fault =>
      obtain ⟨before, entry, after, hsplit, hbefore, hbad⟩ :=
        declarations_eq_error_iff.mp hentries
      exact .badEntry hsplit hbefore hbad
  | bool b => exact .other nofun nofun nofun
  | number n => exact .other nofun nofun nofun
  | string s => exact .other nofun nofun nofun

/-- A value says one thing only, and reading gives it. -/
theorem ofJson_eq_of_reading {v : Value} {result : Except CheckError Abi} (h : Reading v result) :
    ofJson v = result := by
  cases h with
  | nothing => rfl
  | single hd =>
    rw [ofJson, Declaration.ofJson_eq_ok_iff.mpr hd]
    rfl
  | badSingle hbad =>
    rw [ofJson, Declaration.ofJson_eq_error_iff.mpr hbad]
    rfl
  | list hds =>
    rw [ofJson_array, declarations_eq_ok_iff.mpr hds]
    rfl
  | badEntry hsplit hbefore hbad =>
    rw [ofJson_array, declarations_eq_error_iff.mpr ⟨_, _, _, hsplit, hbefore, hbad⟩]
    rfl
  | other hnull hobject harray =>
    cases v with
    | null => exact absurd rfl hnull
    | object members => exact absurd rfl (hobject members)
    | array entries => exact absurd rfl (harray entries)
    | _ => rfl

/-- Each entry of a list of described functions describes one. -/
theorem exists_isDeclaration_of_forall₂ {entries : List Value} {ds : List Declaration}
    (h : List.Forall₂ Declaration.IsDeclaration entries ds) :
    ∀ entry ∈ entries, ∃ d, Declaration.IsDeclaration entry d := by
  induction h with
  | nil => exact nofun
  | cons hentry _ ih => exact List.forall_mem_cons.mpr ⟨⟨_, hentry⟩, ih⟩

/-- An array is refused exactly when some kept entry describes no function. -/
theorem exists_ofJson_array_eq_error_iff (entries : List Value) :
    (∃ error, ofJson (.array entries) = .error error) ↔
      ∃ entry ∈ kept entries, ¬∃ d, Declaration.IsDeclaration entry d := by
  constructor
  · rintro ⟨error, herror⟩
    have hreading := reading_ofJson (.array entries)
    rw [herror] at hreading
    cases hreading with
    | badEntry hsplit _ hbad =>
      refine ⟨_, ?_, Declaration.exists_hasFault_iff.mp ⟨_, hbad⟩⟩
      rw [hsplit]
      exact List.mem_append_right _ List.mem_cons_self
    | other _ _ harray => exact absurd rfl (harray entries)
  · rintro ⟨entry, hentry, hbad⟩
    cases hread : ofJson (.array entries) with
    | error error => exact ⟨error, rfl⟩
    | ok abi =>
      have hreading := reading_ofJson (.array entries)
      rw [hread] at hreading
      cases hreading with
      | list hds => exact absurd (exists_isDeclaration_of_forall₂ hds entry hentry) hbad

/-- Reading an ABI gives exactly what the grammar says for every value, an array is refused exactly
when some entry that counts describes no function, and a function is described exactly by an object
with a proper name and a list of typed inputs. -/
theorem ofJson_eq_iff_reading (v : Value) :
    (∀ result, ofJson v = result ↔ Reading v result) ∧
    (∀ entries, (∃ error, ofJson (.array entries) = .error error) ↔
      ∃ entry ∈ kept entries, ¬∃ d, Declaration.IsDeclaration entry d) ∧
    (∀ result, Declaration.ofJson v = result ↔ Declaration.Reading v result) ∧
    ((∃ d, Declaration.IsDeclaration v d) ↔
      ∃ members name inputs, v = .object members ∧
        lookup? "name" members = some (.string name) ∧ name ≠ "" ∧
        lookup? "inputs" members = some (.array inputs) ∧
        ∀ input ∈ inputs, ∃ inner type, input = .object inner ∧
          lookup? "type" inner = some (.string type)) := by
  refine ⟨fun result => ⟨?_, ofJson_eq_of_reading⟩, exists_ofJson_array_eq_error_iff,
    fun result => Declaration.ofJson_eq_iff, Declaration.exists_isDeclaration_iff⟩
  rintro rfl
  exact reading_ofJson v

end Abi

end DispatchScan
