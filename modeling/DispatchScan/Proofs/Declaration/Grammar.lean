import DispatchScan.Declaration
import DispatchScan.Proofs.Outcome
import Mathlib.Data.List.Forall2

/-!
# The grammar of declarations

Which JSON values describe a function, stated without the order in which they are read, and which
fault the others have. Main statement: reading gives exactly what the grammar says, for every value.
-/

namespace DispatchScan

open Json

/-- The text of an optional value is the text that it holds. -/
theorem bind_text?_eq_some_iff {v : Option Value} {s : String} :
    v >>= Value.text? = some s ↔ v = some (.string s) := by
  rw [Option.bind_eq_bind, Option.bind_eq_some_iff]
  constructor
  · rintro ⟨w, rfl, hw⟩
    cases w <;> simp_all [Value.text?]
  · rintro rfl
    exact ⟨.string s, rfl, rfl⟩

/-- The elements of an optional value are those of the array that it holds. -/
theorem bind_elements?_eq_some_iff {v : Option Value} {vs : List Value} :
    v >>= Value.elements? = some vs ↔ v = some (.array vs) := by
  rw [Option.bind_eq_bind, Option.bind_eq_some_iff]
  constructor
  · rintro ⟨w, rfl, hw⟩
    cases w <;> simp_all [Value.elements?]
  · rintro rfl
    exact ⟨.array vs, rfl, rfl⟩

namespace Declaration

/-- A value describes a parameter: an object with a text as its type. The name is kept where it is a
text too. -/
def IsParam (v : Value) (param : Param) : Prop :=
  ∃ members, v = .object members ∧ lookup? "type" members = some (.string param.type) ∧
    ∀ name, param.name = some name ↔ lookup? "name" members = some (.string name)

/-- A value describes a function: an object with a name that is not empty and a list of parameters,
which are kept in order. -/
def IsDeclaration (v : Value) (d : Declaration) : Prop :=
  ∃ members inputs, v = .object members ∧ lookup? "name" members = some (.string d.name) ∧
    d.name ≠ "" ∧ lookup? "inputs" members = some (.array inputs) ∧
    List.Forall₂ IsParam inputs d.inputs

/-- The fault of a value that describes no function. An earlier line excludes the later ones. -/
inductive HasFault : Value → SpecificationFault → Prop where
  /-- The value is no object. -/
  | notAnObject {v : Value} : (∀ members, v ≠ .object members) → HasFault v .notAnObject
  /-- No name, or none that is a text with a character. -/
  | noName {members : List (String × Value)} :
    (∀ name ≠ "", lookup? "name" members ≠ some (.string name)) →
    HasFault (.object members) .noName
  /-- A name, but no list of inputs. -/
  | noInputs {members : List (String × Value)} {name : String} :
    lookup? "name" members = some (.string name) → name ≠ "" →
    (∀ inputs, lookup? "inputs" members ≠ some (.array inputs)) →
    HasFault (.object members) (.noInputs name)
  /-- An input without a type, behind inputs that all have one. -/
  | noType {members : List (String × Value)} {name : String} {before after : List Value}
      {input : Value} :
    lookup? "name" members = some (.string name) → name ≠ "" →
    lookup? "inputs" members = some (.array (before ++ input :: after)) →
    (∀ earlier ∈ before, ∃ param, IsParam earlier param) → (¬∃ param, IsParam input param) →
    HasFault (.object members) (.noType before.length name)

/-- A parameter is read exactly from the values that describe it. -/
theorem paramOfJson?_eq_some_iff {v : Value} {param : Param} :
    paramOfJson? v = some param ↔ IsParam v param := by
  constructor
  · intro h
    obtain ⟨type, htype, hparam⟩ := Option.bind_eq_some_iff.mp h
    obtain rfl := Option.some.inj hparam
    cases v with
    | object members =>
      exact ⟨members, rfl, bind_text?_eq_some_iff.mp htype, fun name => bind_text?_eq_some_iff⟩
    | _ => exact absurd htype (by simp [Value.get?])
  · rintro ⟨members, rfl, htype, hname⟩
    have hread : (Value.object members).get? "name" >>= Value.text? = param.name := by
      apply Option.ext
      intro name
      rw [hname name]
      exact bind_text?_eq_some_iff
    have htext : (Value.object members).get? "type" >>= Value.text? = some param.type :=
      bind_text?_eq_some_iff.mpr htype
    rw [paramOfJson?, htext, hread]
    rfl

/-- A value from which no parameter is read describes none. -/
theorem paramOfJson?_eq_none_iff {v : Value} :
    paramOfJson? v = none ↔ ¬∃ param, IsParam v param := by
  rw [Option.eq_none_iff_forall_ne_some, not_exists]
  exact forall_congr' fun param => not_congr paramOfJson?_eq_some_iff

/-- Inputs are read exactly when each describes a parameter. -/
theorem paramsOfJson_eq_ok_iff {name : String} {index : Nat} {inputs : List Value}
    {params : List Param} :
    paramsOfJson name index inputs = .ok params ↔ List.Forall₂ IsParam inputs params := by
  induction inputs generalizing index params with
  | nil =>
    rw [paramsOfJson, Except.ok.injEq, List.forall₂_nil_left_iff]
    exact eq_comm
  | cons input inputs ih =>
    rw [paramsOfJson, List.forall₂_cons_left_iff]
    cases hinput : paramOfJson? input with
    | none =>
      have hbad := paramOfJson?_eq_none_iff.mp hinput
      constructor
      · exact nofun
      · rintro ⟨param, rest, hparam, -⟩
        exact absurd ⟨param, hparam⟩ hbad
    | some param =>
      rw [map_eq_ok_iff]
      constructor
      · rintro ⟨rest, hrest, rfl⟩
        exact ⟨param, rest, paramOfJson?_eq_some_iff.mp hinput, ih.mp hrest, rfl⟩
      · rintro ⟨param', rest, hparam, hrest, rfl⟩
        obtain rfl := Option.some.inj (hinput.symm.trans (paramOfJson?_eq_some_iff.mpr hparam))
        exact ⟨rest, ih.mpr hrest, rfl⟩

/-- An input that describes no parameter, and the fault that names it by its place. -/
def IsBadInput (name : String) (fault : SpecificationFault) (place : Nat) (input : Value) : Prop :=
  (¬∃ param, IsParam input param) ∧ fault = .noType place name

/-- Inputs are refused exactly for the first that describes no parameter, by its place. -/
theorem paramsOfJson_eq_error_iff {name : String} {index : Nat} {inputs : List Value}
    {fault : SpecificationFault} :
    paramsOfJson name index inputs = .error fault ↔
      ∃ before input after, inputs = before ++ input :: after ∧
        (∀ earlier ∈ before, ∃ param, IsParam earlier param) ∧
        IsBadInput name fault (index + before.length) input := by
  induction inputs generalizing index with
  | nil =>
    constructor
    · exact nofun
    · rintro ⟨before, input, after, hsplit, -⟩
      exact absurd hsplit (by simp)
  | cons input inputs ih =>
    rw [paramsOfJson]
    cases hinput : paramOfJson? input with
    | none =>
      have hbad := paramOfJson?_eq_none_iff.mp hinput
      have hfirst := exists_first_cons_iff_of_not_good (fun input => ∃ param, IsParam input param)
        (fun place => IsBadInput name fault (index + place)) hbad inputs
      rw [hfirst, IsBadInput, Except.error.injEq, and_iff_right hbad, Nat.add_zero]
      exact eq_comm
    | some param =>
      have hgood : ∃ param, IsParam input param := ⟨param, paramOfJson?_eq_some_iff.mp hinput⟩
      have hnext := exists_first_cons_iff_of_good (fun input => ∃ param, IsParam input param)
        (fun place => IsBadInput name fault (index + place)) hgood (fun h => h.1 hgood) inputs
      rw [map_eq_error_iff, ih, hnext]
      simp only [Nat.add_assoc, Nat.add_comm 1]

/-- What a value says as a declaration: the function that it describes, or its fault. -/
inductive Reading (v : Value) : Except SpecificationFault Declaration → Prop where
  /-- The value describes a function. -/
  | declaration {d : Declaration} : IsDeclaration v d → Reading v (.ok d)
  /-- The value has a fault. -/
  | fault {fault : SpecificationFault} : HasFault v fault → Reading v (.error fault)

/-- A value that is no object is refused as such. -/
theorem ofJson_of_not_object {v : Value} (h : ∀ members, v ≠ .object members) :
    ofJson v = .error .notAnObject := by
  cases v with
  | object members => exact absurd rfl (h members)
  | _ => rfl

/-- An object without a proper name is refused for it. -/
theorem ofJson_of_no_name {members : List (String × Value)}
    (h : ∀ name ≠ "", lookup? "name" members ≠ some (.string name)) :
    ofJson (.object members) = .error .noName := by
  cases hname : (Value.object members).get? "name" >>= Value.text? with
  | none => rw [ofJson, hname]
  | some name =>
    have hempty : name = "" := by
      by_contra hne
      exact h name hne (bind_text?_eq_some_iff.mp hname)
    rw [ofJson, hname]
    simp only [hempty, if_true]

/-- An object with a name is refused by this name if it has no list of inputs. -/
theorem ofJson_of_no_inputs {members : List (String × Value)} {name : String}
    (hname : lookup? "name" members = some (.string name)) (hne : name ≠ "")
    (h : ∀ inputs, lookup? "inputs" members ≠ some (.array inputs)) :
    ofJson (.object members) = .error (.noInputs name) := by
  have htext : (Value.object members).get? "name" >>= Value.text? = some name :=
    bind_text?_eq_some_iff.mpr hname
  have helements : (Value.object members).get? "inputs" >>= Value.elements? = none := by
    rw [Option.eq_none_iff_forall_ne_some]
    exact fun inputs hinputs => h inputs (bind_elements?_eq_some_iff.mp hinputs)
  rw [ofJson, htext]
  simp only [hne, if_false, helements]

/-- An object with a name and inputs is read by its inputs. -/
theorem ofJson_of_inputs {members : List (String × Value)} {name : String} {inputs : List Value}
    (hname : lookup? "name" members = some (.string name)) (hne : name ≠ "")
    (hinputs : lookup? "inputs" members = some (.array inputs)) :
    ofJson (.object members) =
      (paramsOfJson name 0 inputs).map fun params => ⟨name, params, hne⟩ := by
  have htext : (Value.object members).get? "name" >>= Value.text? = some name :=
    bind_text?_eq_some_iff.mpr hname
  have helements : (Value.object members).get? "inputs" >>= Value.elements? = some inputs :=
    bind_elements?_eq_some_iff.mpr hinputs
  rw [ofJson, htext]
  simp only [hne, if_false, helements]
  cases paramsOfJson name 0 inputs with
  | error fault => rfl
  | ok params => simp only [make, hne, dite_false, Except.map]

/-- Reading gives what a value says. -/
theorem reading_ofJson (v : Value) : Reading v (ofJson v) := by
  by_cases hobject : ∃ members, v = .object members
  · obtain ⟨members, rfl⟩ := hobject
    by_cases hname : ∃ name ≠ "", lookup? "name" members = some (.string name)
    · obtain ⟨name, hne, hname⟩ := hname
      by_cases hinputs : ∃ inputs, lookup? "inputs" members = some (.array inputs)
      · obtain ⟨inputs, hinputs⟩ := hinputs
        rw [ofJson_of_inputs hname hne hinputs]
        cases hparams : paramsOfJson name 0 inputs with
        | ok params =>
          have hdescribed := paramsOfJson_eq_ok_iff.mp hparams
          exact .declaration ⟨members, inputs, rfl, hname, hne, hinputs, hdescribed⟩
        | error fault =>
          obtain ⟨before, input, after, rfl, hbefore, hbad, rfl⟩ :=
            paramsOfJson_eq_error_iff.mp hparams
          rw [Nat.zero_add]
          exact .fault (.noType hname hne hinputs hbefore hbad)
      · have hnone := not_exists.mp hinputs
        rw [ofJson_of_no_inputs hname hne hnone]
        exact .fault (.noInputs hname hne hnone)
    · have hnone : ∀ name ≠ "", lookup? "name" members ≠ some (.string name) :=
        fun name hne h => hname ⟨name, hne, h⟩
      rw [ofJson_of_no_name hnone]
      exact .fault (.noName hnone)
  · have hnone := not_exists.mp hobject
    rw [ofJson_of_not_object hnone]
    exact .fault (.notAnObject hnone)

/-- A value says one thing only, and reading gives it. -/
theorem ofJson_eq_of_reading {v : Value} {result : Except SpecificationFault Declaration}
    (h : Reading v result) : ofJson v = result := by
  cases h with
  | declaration h =>
    obtain ⟨members, inputs, rfl, hname, hne, hinputs, hparams⟩ := h
    rw [ofJson_of_inputs hname hne hinputs, paramsOfJson_eq_ok_iff.mpr hparams]
    rfl
  | fault h =>
    cases h with
    | notAnObject h => exact ofJson_of_not_object h
    | noName h => exact ofJson_of_no_name h
    | noInputs hname hne h => exact ofJson_of_no_inputs hname hne h
    | noType hname hne hinputs hbefore hbad =>
      rw [ofJson_of_inputs hname hne hinputs,
        paramsOfJson_eq_error_iff.mpr ⟨_, _, _, rfl, hbefore, hbad, rfl⟩, Nat.zero_add]
      rfl

/-- Reading gives exactly what a value says. -/
theorem ofJson_eq_iff {v : Value} {result : Except SpecificationFault Declaration} :
    ofJson v = result ↔ Reading v result := by
  constructor
  · rintro rfl
    exact reading_ofJson v
  · exact ofJson_eq_of_reading

/-- A declaration is read exactly from the values that describe it. -/
theorem ofJson_eq_ok_iff {v : Value} {d : Declaration} : ofJson v = .ok d ↔ IsDeclaration v d := by
  rw [ofJson_eq_iff]
  constructor
  · intro h
    cases h with
    | declaration h => exact h
  · exact .declaration

/-- A value is refused exactly for its fault. -/
theorem ofJson_eq_error_iff {v : Value} {fault : SpecificationFault} :
    ofJson v = .error fault ↔ HasFault v fault := by
  rw [ofJson_eq_iff]
  constructor
  · intro h
    cases h with
    | fault h => exact h
  · exact .fault

/-- A list of inputs describes parameters when each input is an object with a text as its type. -/
theorem exists_forall₂_isParam_iff {inputs : List Value} :
    (∃ params, List.Forall₂ IsParam inputs params) ↔
      ∀ input ∈ inputs, ∃ members type, input = .object members ∧
        lookup? "type" members = some (.string type) := by
  induction inputs with
  | nil => exact iff_of_true ⟨[], .nil⟩ nofun
  | cons input inputs ih =>
    rw [List.forall_mem_cons, ← ih]
    constructor
    · rintro ⟨params, hparams⟩
      obtain ⟨param, rest, ⟨members, hobject, htype, -⟩, hrest, rfl⟩ :=
        List.forall₂_cons_left_iff.mp hparams
      exact ⟨⟨members, param.type, hobject, htype⟩, rest, hrest⟩
    · rintro ⟨⟨members, type, rfl, htype⟩, rest, hrest⟩
      have hname : ∀ name, lookup? "name" members >>= Value.text? = some name ↔
          lookup? "name" members = some (.string name) := fun name => bind_text?_eq_some_iff
      exact ⟨⟨type, _⟩ :: rest, .cons ⟨members, rfl, htype, hname⟩ hrest⟩

/-- Which values describe some function. -/
theorem exists_isDeclaration_iff {v : Value} :
    (∃ d, IsDeclaration v d) ↔
      ∃ members name inputs, v = .object members ∧
        lookup? "name" members = some (.string name) ∧ name ≠ "" ∧
        lookup? "inputs" members = some (.array inputs) ∧
        ∀ input ∈ inputs, ∃ inner type, input = .object inner ∧
          lookup? "type" inner = some (.string type) := by
  constructor
  · rintro ⟨d, members, inputs, hobject, hname, hne, hinputs, hparams⟩
    exact ⟨members, d.name, inputs, hobject, hname, hne, hinputs,
      exists_forall₂_isParam_iff.mp ⟨d.inputs, hparams⟩⟩
  · rintro ⟨members, name, inputs, hobject, hname, hne, hinputs, htypes⟩
    obtain ⟨params, hparams⟩ := exists_forall₂_isParam_iff.mpr htypes
    exact ⟨⟨name, params, hne⟩, members, inputs, hobject, hname, hne, hinputs, hparams⟩

/-- A value has a fault exactly when it describes no function. -/
theorem exists_hasFault_iff {v : Value} :
    (∃ fault, HasFault v fault) ↔ ¬∃ d, IsDeclaration v d := by
  simp only [← ofJson_eq_error_iff, ← ofJson_eq_ok_iff]
  cases ofJson v <;> simp

end Declaration

end DispatchScan
