import DispatchScan.Proofs.Abi.Grammar
import DispatchScan.Proofs.Json.Written

/-!
# Written ABIs are read back

A declaration carries the proof that it has a name, so whatever builds it has checked this. Main
statement: what is written for a declaration or an ABI is read back as this declaration or ABI, from
the JSON value and from its compact text, by every reader.
-/

namespace DispatchScan

open Json

/-- Decoding a plain value that is all of a text converts this value. -/
theorem decode_render {α : Type} {convert : Value → Except CheckError α} {v : Value} {x : α}
    (hplain : Plain maxDepth v) (hconvert : convert v = .ok x) :
    decode convert v.render = .ok x := by
  have hvalue : Reader.value maxDepth (Text.utf8 v.render) = .ok (v, []) :=
    reads_value_render hplain
  have hfinish : Reader.finish [] = .ok ((), []) := Reader.reads_finish
  rw [decode]
  simp only [hvalue, hconvert, hfinish]

namespace Declaration

/-- A declaration is made of every name but the empty one, and of these data. -/
theorem make_eq_ok_iff {name : String} {inputs : List Param} {d : Declaration} :
    make name inputs = .ok d ↔ name ≠ "" ∧ d.name = name ∧ d.inputs = inputs := by
  constructor
  · intro h
    by_cases hempty : name = ""
    · rw [make, dif_pos hempty] at h
      exact absurd h (by simp)
    · rw [make, dif_neg hempty] at h
      obtain rfl := Except.ok.inj h
      exact ⟨hempty, rfl, rfl⟩
  · intro h
    have hinputs := h.2.2
    have hname := h.2.1
    subst hname hinputs
    rw [make, dif_neg h.1]

/-- The members of a parameter: its type, and its name if it has one. -/
def paramMembers (param : Param) : List (String × Value) :=
  ("type", .string param.type) :: (param.name.map fun name => ("name", .string name)).toList

/-- The object of a parameter has just these members. -/
theorem paramToJson_eq (param : Param) : paramToJson param = .object (paramMembers param) := by
  obtain ⟨type, name⟩ := param
  cases name with
  | none => rfl
  | some name => rfl

/-- The object of a declaration has its name and the list of its parameters. -/
theorem toJson_eq (d : Declaration) :
    d.toJson = .object [("name", .string d.name),
      ("inputs", .array (d.inputs.map fun param => .object (paramMembers param)))] := by
  have hparams : d.inputs.map paramToJson =
      d.inputs.map fun param => .object (paramMembers param) :=
    List.map_congr_left fun param _ => paramToJson_eq param
  rw [toJson, hparams]

/-- The object of a parameter describes it, with its name if it has one. -/
theorem isParam_paramToJson (param : Param) : IsParam (paramToJson param) param := by
  obtain ⟨type, name⟩ := param
  cases name with
  | none => exact ⟨_, rfl, rfl, fun name => ⟨nofun, nofun⟩⟩
  | some name =>
    refine ⟨_, rfl, rfl, fun other => ?_⟩
    have hlookup : lookup? "name" [("type", .string type), ("name", .string name)]
        = some (.string name) := rfl
    rw [hlookup, Option.some.injEq, Option.some.injEq, Value.string.injEq]

/-- The object of a declaration describes it. -/
theorem isDeclaration_toJson (d : Declaration) : IsDeclaration d.toJson d := by
  refine ⟨_, d.inputs.map paramToJson, rfl, rfl, d.name_ne_empty, rfl, ?_⟩
  rw [List.forall₂_map_left_iff, List.forall₂_same]
  exact fun param _ => isParam_paramToJson param

/-- The object of a parameter is plain. -/
theorem plain_paramToJson (depth : Nat) (param : Param) :
    Plain (depth + 1) (paramToJson param) := by
  have hkey : "type" ≠ embeddedKey := by decide
  have hname : ∀ m ∈ (param.name.map fun name => ("name", Value.string name)).toList,
      Plain depth m.2 := by
    intro m hm
    obtain ⟨name, -, rfl⟩ := Option.map_eq_some_iff.mp (Option.mem_toList.mp hm)
    exact .string depth name
  rw [paramToJson_eq]
  refine .object ?_ fun m hm => Option.some.inj hm ▸ hkey
  exact List.forall_mem_cons.mpr ⟨.string depth param.type, hname⟩

/-- The object of a declaration is plain. -/
theorem plain_toJson (depth : Nat) (d : Declaration) : Plain (depth + 3) d.toJson := by
  have hkey : "name" ≠ embeddedKey := by decide
  have hinputs : Plain (depth + 2) (.array (d.inputs.map paramToJson)) := by
    refine .array fun v hv => ?_
    obtain ⟨param, -, rfl⟩ := List.mem_map.mp hv
    exact plain_paramToJson depth param
  refine .object ?_ fun m hm => Option.some.inj hm ▸ hkey
  exact List.forall_mem_cons.mpr ⟨.string _ d.name, List.forall_mem_singleton.mpr hinputs⟩

/-- The object of a declaration is read as this declaration. -/
theorem ofJson_toJson (d : Declaration) : ofJson d.toJson = .ok d :=
  ofJson_eq_ok_iff.mpr d.isDeclaration_toJson

/-- The text of a declaration is decoded as this declaration. -/
theorem decode_render_toJson (d : Declaration) : decode d.toJson.render = .ok d := by
  refine decode_render (plain_toJson 124 d) ?_
  rw [ofJson_toJson]
  rfl

end Declaration

namespace Abi

/-- Every reader gives the ABI: from the value, from its compact text and from this text as data. -/
structure ReadBack (v : Value) (abi : Abi) : Prop where
  /-- The value is read. -/
  value : ofJson v = .ok abi
  /-- Its text is read. -/
  text : parse v.render = .ok abi
  /-- Its text is decoded. -/
  data : decode v.render = .ok abi

/-- For plain values all readers agree. -/
theorem readBack_of_plain {v : Value} {abi : Abi} (hplain : Plain maxDepth v)
    (hvalue : ofJson v = .ok abi) : ReadBack v abi := by
  refine ⟨hvalue, ?_, decode_render hplain hvalue⟩
  rw [parse, parse_render hplain]
  exact hvalue

/-- The object of a declaration has no type, so no array drops it. -/
theorem not_isSkipped_toJson (d : Declaration) : ¬IsSkipped d.toJson := by
  rintro ⟨members, type, hobject, htype, -⟩
  obtain rfl := Value.object.inj hobject
  exact absurd htype nofun

/-- Every declaration that is written counts. -/
theorem kept_map_toJson (ds : List Declaration) :
    kept (ds.map Declaration.toJson) = ds.map Declaration.toJson := by
  rw [kept, List.filter_eq_self]
  intro entry hentry
  obtain ⟨d, -, rfl⟩ := List.mem_map.mp hentry
  exact decide_eq_true (not_isSkipped_toJson d)

/-- The array of an ABI is read as this ABI. -/
theorem ofJson_toJson (abi : Abi) : ofJson abi.toJson = .ok abi := by
  have hentries : declarations (abi.functions.map Declaration.toJson) = .ok abi.functions := by
    rw [declarations_eq_ok_iff, List.forall₂_map_left_iff, List.forall₂_same]
    exact fun d _ => d.isDeclaration_toJson
  rw [toJson, ofJson_array, kept_map_toJson, hentries]
  rfl

/-- The object of a single function is read as the ABI of this function. -/
theorem ofJson_toJson_singleton (d : Declaration) : ofJson d.toJson = .ok (singleton d) :=
  ofJson_eq_of_reading (.single d.isDeclaration_toJson)

/-- The array of an ABI is plain. -/
theorem plain_toJson (depth : Nat) (abi : Abi) : Plain (depth + 4) abi.toJson := by
  refine .array fun v hv => ?_
  obtain ⟨d, -, rfl⟩ := List.mem_map.mp hv
  exact d.plain_toJson depth

/-- A declaration is made of every name but the empty one, so it has a name. It is written as an
object with this name and a list of its parameters, which state their names where they have one, and
is read back from it, alone and as the ABI of one function. Every ABI is written as the array of its
declarations, and is read back with the same functions in the same order. -/
theorem readBack_toJson :
    (∀ name inputs d, Declaration.make name inputs = .ok d ↔
      name ≠ "" ∧ d.name = name ∧ d.inputs = inputs) ∧
    (∀ d : Declaration, d.name ≠ "" ∧
      d.toJson = .object [("name", .string d.name),
        ("inputs", .array (d.inputs.map fun param => .object (Declaration.paramMembers param)))] ∧
      Declaration.ofJson d.toJson = .ok d ∧ Declaration.decode d.toJson.render = .ok d ∧
      ReadBack d.toJson (singleton d)) ∧
    ∀ abi : Abi, (∀ d ∈ abi.functions, d.name ≠ "") ∧
      abi.toJson = .array (abi.functions.map Declaration.toJson) ∧ ReadBack abi.toJson abi := by
  refine ⟨fun name inputs d => Declaration.make_eq_ok_iff, fun d => ?_, fun abi => ?_⟩
  · have hread := readBack_of_plain (d.plain_toJson 124) (ofJson_toJson_singleton d)
    exact ⟨d.name_ne_empty, d.toJson_eq, d.ofJson_toJson, d.decode_render_toJson, hread⟩
  · have hread := readBack_of_plain (abi.plain_toJson 123) abi.ofJson_toJson
    exact ⟨fun d _ => d.name_ne_empty, rfl, hread⟩

end Abi

end DispatchScan
