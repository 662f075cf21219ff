import DispatchScan.Proofs.Service.Verdict

/-!
# Lists from the service

A listing shows the signature and the selector of each row, and a check also shows whether it was
found. A value that is no ABI is turned down by both, whatever else the request holds.
-/

namespace DispatchScan

open Json

namespace Service

/-- An answer that shows the signature and the selector of each row. -/
def Answer.ListsSignatures (answer : Answer) (rows : List Finding) : Prop :=
  answer.status.code = 200 ∧ answer.content = .json (.array (rows.map fun row => .object
    [("signature", .string row.signature), ("selector", .string row.selector)]))

/-- An answer that shows the signature and the selector of each row, and whether it was found. -/
def Answer.ListsFunctions (answer : Answer) (rows : List Finding) : Prop :=
  answer.status.code = 200 ∧ ∃ body, answer.content = .json body ∧
    body.get? "functions" = some (.array (rows.map fun row => .object
      [("signature", .string row.signature), ("selector", .string row.selector),
        ("matched", .bool row.found)]))

/-- An answer that turns a request down and shows nothing but the reason. -/
def Answer.TurnsDown (answer : Answer) : Prop :=
  answer.status.code = 400 ∧ ∃ heading details, answer.content = .json (.object
    [("error", .string heading), ("details", .string details)])

variable {config : Config} {request : Request} {spelling bytecode : String} {v : Value}
  {scan : Option Strategy} {abi : Abi}

/-- A request for signatures is served by its body. -/
theorem respond_signatures (hmethod : request.method = "POST")
    (hpath : request.path = "/signature") :
    respond config request =
      (serve SignatureQuery.reader signatures request).withHeader "access-control-allow-origin"
        "*" := by
  have hroute : Route.ofPath? request.path = some .signatures := by
    rw [hpath]
    rfl
  rw [respond_of_route hmethod hroute]
  simp only [Route.answer, hmethod]

/-- The service lists the functions of an ABI by their findings. -/
theorem listsSignatures_respond (hmethod : request.method = "POST")
    (hpath : request.path = "/signature")
    (hdecode : request.decode SignatureQuery.reader = .ok ⟨v⟩) (hvalue : Abi.ofJson v = .ok abi)
    (bytecode : String) (strategy : Strategy) :
    (respond config request).ListsSignatures
      (abi.functions.map (Assessment.finding bytecode strategy)) := by
  have hsignatures : signatures ⟨v⟩ = .ok (.array (abi.functions.map signatureJson)) := by
    simp only [signatures, hvalue]
  rw [respond_signatures hmethod hpath, serve_of_ok hdecode hsignatures]
  refine ⟨rfl, ?_⟩
  rw [List.map_map]
  rfl

/-- A check by the service lists the findings. -/
theorem listsFunctions_respond (hmethod : request.method = "POST")
    (hpath : request.path = "/satisfies")
    (hdecode : request.decode CheckQuery.reader = .ok ⟨some spelling, v, scan⟩)
    (hnormalize : Hex.normalize spelling = .ok bytecode) (hne : bytecode ≠ "")
    (hvalue : Abi.ofJson v = .ok abi) :
    (respond config request).ListsFunctions
      (abi.functions.map (Assessment.finding bytecode (scan.getD config.scan))) := by
  rw [respond_check hmethod hpath, serve_of_ok hdecode (check_of_ok hnormalize hne hvalue)]
  exact ⟨rfl, _, rfl, rfl⟩

/-- What is refused is turned down. -/
theorem turnsDown_of_refused (refusal : Refusal) :
    (Answer.of .badRequest (.json refusal.toJson)).TurnsDown :=
  ⟨rfl, refusal.heading, refusal.details, rfl⟩

/-- The functions of a value that is no ABI are not listed. -/
theorem turnsDown_respond_signatures (hmethod : request.method = "POST")
    (hpath : request.path = "/signature")
    (hdecode : request.decode SignatureQuery.reader = .ok ⟨v⟩) {error : CheckError}
    (hvalue : Abi.ofJson v = .error error) : (respond config request).TurnsDown := by
  have hsignatures : signatures ⟨v⟩ = .error (.check error) := by
    simp only [signatures, hvalue]
  rw [respond_signatures hmethod hpath, serve_of_refused hdecode hsignatures]
  exact turnsDown_of_refused _

/-- Nothing is checked against a value that is no ABI. -/
theorem turnsDown_respond_check (hmethod : request.method = "POST")
    (hpath : request.path = "/satisfies") {given : Option String}
    (hdecode : request.decode CheckQuery.reader = .ok ⟨given, v, scan⟩) {error : CheckError}
    (hvalue : Abi.ofJson v = .error error) : (respond config request).TurnsDown := by
  obtain ⟨refusal, hcheck⟩ := exists_check_eq_error hvalue config given scan
  rw [respond_check hmethod hpath, serve_of_refused hdecode hcheck]
  exact turnsDown_of_refused _

end Service

end DispatchScan
