import DispatchScan.Proofs.Json.Written
import DispatchScan.Service.Payload

/-!
# Bodies of requests

The body that holds a spelling of bytecode and an ABI is decoded as just these, whatever the
spelling is, and so is a body that holds an ABI alone, as long as it is not too large.
-/

namespace DispatchScan

open Json

namespace Json.Reader

/-- A member of a record that was not seen before is read by its field. -/
theorem reads_fieldMember {σ : Type} {fields : List (Field σ)} {seen : List String}
    {state state' : σ} {field : Field σ} {key : String} {text rest : List UInt8}
    (hfield : fields.find? (fun field => field.key == key) = some field) (hseen : key ∉ seen)
    (hread : Reads (field.read state) text state' rest) :
    Reads (fieldMember fields seen state) (spell (stringToken key) ++ code ':' :: text)
      (key :: seen, state') rest := by
  refine (reads_string key _).bind ?_
  simp only [hfield, if_neg hseen]
  exact (reads_colon text).bind (hread.bind (reads_pure _ rest))

/-- A record ends behind any of its members. -/
theorem reads_fieldsEnd {σ : Type} (fields : List (Field σ)) (count : Nat) (seen : List String)
    (state : σ) : Reads (moreFields fields (count + 1) seen state) [code '\x7d'] state [] :=
  (reads_next? (by decide) []).bind ((reads_skip _ []).bind (reads_pure _ []))

/-- A text is read where a text or nothing may stand. -/
theorem reads_nullable_text (s : String) (rest : List UInt8) :
    Reads (nullable text) (spell (stringToken s) ++ rest) (some s) rest := by
  have hstring : Reads string (spell (stringToken s) ++ rest) s rest := reads_string s rest
  obtain ⟨tail, hquote⟩ := spell_stringToken s
  have hletter : ¬code '"' = code 'n' := by decide
  rw [hquote, List.cons_append] at hstring ⊢
  refine (reads_next? (by decide) _).bind ?_
  simp only [if_neg hletter]
  refine Reads.bind ?_ (reads_pure _ rest)
  refine (reads_next? (by decide) _).bind ?_
  simp only [if_true]
  exact hstring

end Json.Reader

namespace Service

open Json.Reader

/-- The value of the body for a check. -/
def checkBody (spelling : String) (abi : Value) : Value :=
  .object [("bytecode", .string spelling), ("abi", abi)]

/-- The bytes of the body for a check. -/
theorem bytes_checkBody (spelling : String) (abi : Value) :
    (checkBody spelling abi).bytes
      = code '\x7b' :: (spell (stringToken "bytecode") ++ code ':' :: (spell (stringToken spelling)
        ++ code ',' :: (spell (stringToken "abi") ++ code ':' :: (abi.bytes
          ++ [code '\x7d'])))) := by
  rw [checkBody, Value.bytes_object, joined, List.flatMap_cons, List.flatMap_nil]
  simp only [memberText, Value.bytes, Value.tokens, List.append_assoc, List.cons_append,
    List.append_nil]

/-- The first member of the body gives the bytecode. -/
theorem reads_bytecodeMember (spelling : String) (rest : List UInt8) :
    Reads (fieldMember CheckQuery.fields [] ⟨none, .null, none⟩)
      (spell (stringToken "bytecode") ++ code ':' :: (spell (stringToken spelling) ++ rest))
      (["bytecode"], ⟨some spelling, .null, none⟩) rest := by
  refine reads_fieldMember rfl List.not_mem_nil ?_
  exact (reads_nullable_text spelling rest).bind (reads_pure _ rest)

/-- The second member of the body gives the ABI. -/
theorem reads_abiMember {abi : Value} (habi : Plain (maxDepth - 1) abi) (query : CheckQuery)
    (rest : List UInt8) :
    Reads (fieldMember CheckQuery.fields ["bytecode"] query)
      (spell (stringToken "abi") ++ code ':' :: (abi.bytes ++ rest))
      (["abi", "bytecode"], { query with abi }) rest := by
  refine reads_fieldMember rfl (by decide) ?_
  exact (reads_value habi rest).bind (reads_pure _ rest)

/-- The body ends after its second member. -/
theorem reads_abiEnd {abi : Value} (habi : Plain (maxDepth - 1) abi) (query : CheckQuery)
    (count : Nat) :
    Reads (moreFields CheckQuery.fields (count + 2) ["bytecode"] query)
      (code ',' :: (spell (stringToken "abi") ++ code ':' :: (abi.bytes ++ [code '\x7d'])))
      { query with abi } [] := by
  have hend := reads_fieldsEnd CheckQuery.fields count ["abi", "bytecode"] { query with abi }
  have hmember := reads_abiMember habi query [code '\x7d']
  obtain ⟨_, hkey⟩ := spell_stringToken "abi"
  rw [hkey, List.cons_append] at hmember ⊢
  refine (reads_next? (by decide) _).bind ((reads_skip _ _).bind ?_)
  refine (reads_next? (by decide) _).bind ?_
  exact hmember.bind hend

/-- The body for a check is read as its spelling and its ABI. -/
theorem reads_checkBody {abi : Value} (habi : Plain (maxDepth - 1) abi) (spelling : String) :
    Reads CheckQuery.reader (Text.utf8 (checkBody spelling abi).render)
      ⟨some spelling, abi, none⟩ [] := by
  have hmember := reads_bytecodeMember spelling
    (code ',' :: (spell (stringToken "abi") ++ code ':' :: (abi.bytes ++ [code '\x7d'])))
  obtain ⟨_, hkey⟩ := spell_stringToken "bytecode"
  rw [Value.utf8_render, bytes_checkBody]
  rw [hkey, List.cons_append] at hmember ⊢
  refine (reads_next? (by decide) _).bind ((reads_skip _ _).bind ?_)
  refine (reads_next? (by decide) _).bind ?_
  refine hmember.bind ((reads_bound _).bind ?_)
  rw [List.length_cons, List.length_append, List.length_cons]
  exact reads_abiEnd habi _ _

/-- The value of the body for signatures. -/
def signatureBody (abi : Value) : Value :=
  .object [("abi", abi)]

/-- The bytes of the body for signatures. -/
theorem bytes_signatureBody (abi : Value) :
    (signatureBody abi).bytes
      = code '\x7b' :: (spell (stringToken "abi") ++ code ':' :: (abi.bytes ++ [code '\x7d'])) := by
  rw [signatureBody, Value.bytes_object, joined, List.flatMap_nil]
  simp only [memberText, Value.bytes, List.append_assoc, List.cons_append, List.append_nil]

/-- The body for signatures is read as its ABI. -/
theorem reads_signatureBody {abi : Value} (habi : Plain (maxDepth - 1) abi) :
    Reads SignatureQuery.reader (Text.utf8 (signatureBody abi).render) ⟨abi⟩ [] := by
  have hmember : Reads (fieldMember SignatureQuery.fields [] ⟨.null⟩)
      (spell (stringToken "abi") ++ code ':' :: (abi.bytes ++ [code '\x7d']))
      (["abi"], ⟨abi⟩) [code '\x7d'] := by
    refine reads_fieldMember rfl List.not_mem_nil ?_
    exact (reads_value habi _).bind (reads_pure _ _)
  obtain ⟨_, hkey⟩ := spell_stringToken "abi"
  rw [Value.utf8_render, bytes_signatureBody]
  rw [hkey, List.cons_append] at hmember ⊢
  refine (reads_next? (by decide) _).bind ((reads_skip _ _).bind ?_)
  refine (reads_next? (by decide) _).bind ?_
  refine hmember.bind ((reads_bound _).bind ?_)
  exact reads_fieldsEnd SignatureQuery.fields _ ["abi"] ⟨abi⟩

/-- A request that declares its body as JSON is decoded as what the body is read as, unless it is
too large. -/
theorem decode_of_reads {α : Type} {reader : Reader α} {request : Request} {query : α}
    {body : List UInt8} (hheaders : request.headers = [("content-type", "application/json")])
    (hbody : request.body = body) (hsize : body.length ≤ maxBodySize)
    (hreads : Reads reader body query []) : request.decode reader = .ok query := by
  have hheader : ([("content-type", "application/json")].find? fun header =>
      header.1.map Char.toLower == "content-type") = some ("content-type", "application/json") := by
    decide +kernel
  have htype : MediaType.isJson "application/json" = true := by decide +kernel
  have hjson : request.declaresJson = true := by
    rw [Request.declaresJson, Request.header?, hheaders]
    simp only [hheader, Option.map_some, Option.any_some, htype]
  rw [Request.decode, if_pos hjson, hbody, if_pos hsize, Json.run, hreads]
  rfl

/-- A request for a check. -/
def checkRequest (spelling : String) (abi : Value) : Request :=
  ⟨"POST", "/satisfies", [("content-type", "application/json")],
    Text.utf8 (checkBody spelling abi).render⟩

/-- A request for a check is decoded as its spelling and its ABI. The record is a level itself: an
ABI of exactly `maxDepth` levels, which the command line reads, is in no body that the service
decodes, and neither is one that makes its body larger than `maxBodySize`. What is said of the
service speaks of decoded bodies, so it leaves these ABIs out. -/
theorem decode_checkRequest {abi : Value} (habi : Plain (maxDepth - 1) abi) {spelling : String}
    (hsize : (Text.utf8 (checkBody spelling abi).render).length ≤ maxBodySize) :
    (checkRequest spelling abi).decode CheckQuery.reader = .ok ⟨some spelling, abi, none⟩ := by
  have hbody : (checkRequest spelling abi).body = Text.utf8 (checkBody spelling abi).render := by
    rw [checkRequest]
  exact decode_of_reads rfl hbody hsize (reads_checkBody habi spelling)

/-- A request for signatures. -/
def signatureRequest (abi : Value) : Request :=
  ⟨"POST", "/signature", [("content-type", "application/json")],
    Text.utf8 (signatureBody abi).render⟩

/-- A request for signatures is decoded as its ABI, with the same bounds on depth and size. -/
theorem decode_signatureRequest {abi : Value} (habi : Plain (maxDepth - 1) abi)
    (hsize : (Text.utf8 (signatureBody abi).render).length ≤ maxBodySize) :
    (signatureRequest abi).decode SignatureQuery.reader = .ok ⟨abi⟩ := by
  have hbody : (signatureRequest abi).body = Text.utf8 (signatureBody abi).render := by
    rw [signatureRequest]
  exact decode_of_reads rfl hbody hsize (reads_signatureBody habi)

end Service

end DispatchScan
