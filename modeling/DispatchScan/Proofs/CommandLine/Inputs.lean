import DispatchScan.CommandLine.Program
import DispatchScan.Proofs.Json.Reads

/-!
# Inputs on the command line

An argument carries a text when it is the text or names a file that holds it. Loading from an
argument gives what the carried text gives. A text that is JSON never looks like the name of a file.
-/

namespace DispatchScan

open Json

/-- A text whose first byte starts no value is no JSON. -/
theorem Json.parse_ne_ok_of_noValue {text : String} {b : UInt8} {tail : List UInt8}
    (htext : Text.utf8 text = b :: tail) (hspace : Reader.isSpace b = false)
    (hscalar : Reader.scalar? b = some (Reader.failNext .noValue)) (v : Value) :
    parse text ≠ .ok v := by
  have hvalue : ∀ depth, Reader.value depth (b :: tail) = .error ⟨.noValue, tail.length⟩ := by
    intro depth
    rw [Reader.value, Reader.nested, (Reader.reads_next? hspace tail).bind_apply]
    simp only [hscalar]
    rfl
  have hrun : ∀ depth, (do let v ← Reader.value depth; Reader.finish; pure v) (b :: tail)
      = .error ⟨.noValue, tail.length⟩ := by
    intro depth
    change (Reader.value depth (b :: tail) >>= _) = _
    rw [hvalue depth]
    rfl
  rw [parse, run, htext, hrun]
  exact nofun

namespace CommandLine

/-- A text names a file exactly when it starts with an at sign. -/
theorem filePath?_eq_none_iff {argument : String} :
    filePath? argument = none ↔ argument.toList.head? ≠ some '@' := by
  rw [filePath?]
  cases argument.toList with
  | nil => exact iff_of_true rfl nofun
  | cons c cs =>
    by_cases hc : c = '@'
    · subst hc
      exact iff_of_false nofun fun h => h rfl
    · refine iff_of_true ?_ fun h => hc (Option.some.inj h)
      split
      · rename_i heq
        exact absurd (List.cons.inj heq).1 hc
      · rfl

/-- A JSON text does not start with an at sign. -/
theorem head?_ne_of_parse {text : String} {v : Value} (h : parse text = .ok v) :
    text.toList.head? ≠ some '@' := by
  intro hhead
  obtain ⟨rest, hrest⟩ := List.head?_eq_some_iff.mp hhead
  have hbytes : Text.utf8 text = Reader.code '@' :: rest.flatMap String.utf8EncodeChar := by
    rw [Text.utf8, hrest, List.flatMap_cons, Text.utf8EncodeChar_of_lt (by decide)]
    rfl
  exact parse_ne_ok_of_noValue hbytes (by decide) rfl v h

/-- An argument carries a text: it is the text, or it names a file that holds the text. -/
inductive Carries (read : ReadFile) (text : String) : String → Prop where
  /-- The text itself. -/
  | inline : Carries read text text
  /-- A file with the bytes of the text. -/
  | file {argument path : String} : filePath? argument = some path →
    read path = .ok (Text.utf8 text) → Carries read text argument

variable {read : ReadFile} {text argument : String}

/-- An ABI is loaded from the JSON text that an argument carries. -/
theorem loadAbi_of_carries (h : Carries read text argument) {v : Value}
    (htext : parse text = .ok v) :
    loadAbi read argument = (Abi.ofJson v).mapError Failure.check := by
  have hparse : Abi.parse text = Abi.ofJson v := by rw [Abi.parse, htext]
  cases h with
  | inline => rw [loadAbi, filePath?_eq_none_iff.mpr (head?_ne_of_parse htext), hparse]
  | file hpath hread =>
    rw [loadAbi, hpath]
    simp only [readText_of_utf8 hread, hparse]

/-- Bytecode is loaded from the text that an argument carries. -/
theorem loadBytecode_of_carries (h : Carries read text argument)
    (htext : text.toList.head? ≠ some '@') :
    loadBytecode read argument = (Bytecode.ofText text).mapError Failure.bytecode := by
  cases h with
  | inline => rw [loadBytecode, filePath?_eq_none_iff.mpr htext]
  | file hpath hread =>
    rw [loadBytecode, hpath]
    simp only [Bytecode.ofFile, readText_of_utf8 hread]

end CommandLine

end DispatchScan
