import DispatchScan.Proofs.Verdict
import DispatchScan.Service.Router

/-!
# Verdicts from the service

An answer shows a verdict by its status and the member that says whether everything was found. A
check by the service shows the verdict on the inputs that its body holds.
-/

namespace DispatchScan

open Json

namespace Service

/-- What an answer to a check holds when its verdict is the given one. -/
def Answer.Shows (answer : Answer) : Verdict → Prop
  | .rejected => answer.status.code = 400
  | .satisfied => answer.status.code = 200 ∧ ∃ v, answer.content = .json v ∧
      v.get? "satisfied" = some (.bool true)
  | .unsatisfied => answer.status.code = 200 ∧ ∃ v, answer.content = .json v ∧
      v.get? "satisfied" = some (.bool false)

/-- A report shows whether everything was found. -/
theorem shows_reportJson (findings : List Finding) :
    (Answer.of .ok (.json (reportJson findings))).Shows
      (.ofBool (findings.all Finding.found)) := by
  have hget : (reportJson findings).get? "satisfied"
      = some (.bool (findings.all Finding.found)) := rfl
  cases hall : findings.all Finding.found with
  | true => exact ⟨rfl, _, rfl, hall ▸ hget⟩
  | false => exact ⟨rfl, _, rfl, hall ▸ hget⟩

/-- A further header shows nothing else. -/
theorem Answer.Shows.withHeader {answer : Answer} {verdict : Verdict} (h : answer.Shows verdict)
    (name value : String) : (answer.withHeader name value).Shows verdict := by
  cases verdict <;> exact h

variable {config : Config} {request : Request} {spelling bytecode : String} {v : Value}
  {scan : Option Strategy} {abi : Abi}

section

variable {α : Type} {reader : Reader α} {handle : α → Except Refusal Value} {query : α}

/-- What is made of a body is the answer. -/
theorem serve_of_ok (hdecode : request.decode reader = .ok query) (hhandle : handle query = .ok v) :
    serve reader handle request = .of .ok (.json v) := by
  simp only [serve, hdecode, hhandle]

/-- A body that is refused is answered with its refusal. -/
theorem serve_of_refused {refusal : Refusal} (hdecode : request.decode reader = .ok query)
    (hhandle : handle query = .error refusal) :
    serve reader handle request = .of .badRequest (.json refusal.toJson) := by
  simp only [serve, hdecode, hhandle]

end

/-- A request that sends something is answered by what stands at its path. -/
theorem respond_of_route (hmethod : request.method = "POST") {route : Route}
    (hroute : Route.ofPath? request.path = some route) :
    respond config request =
      (route.answer config request).withHeader "access-control-allow-origin" "*" := by
  rw [respond, dispatch, hroute, if_neg (by rw [hmethod]; decide)]

/-- A request for a check is served by its body. -/
theorem respond_check (hmethod : request.method = "POST") (hpath : request.path = "/satisfies") :
    respond config request =
      (serve CheckQuery.reader (check config) request).withHeader "access-control-allow-origin"
        "*" := by
  have hroute : Route.ofPath? request.path = some .check := by
    rw [hpath]
    rfl
  rw [respond_of_route hmethod hroute]
  simp only [Route.answer, hmethod]

/-- A check of inputs that make sense is a report. -/
theorem check_of_ok (hnormalize : Hex.normalize spelling = .ok bytecode) (hne : bytecode ≠ "")
    (hvalue : Abi.ofJson v = .ok abi) :
    check config ⟨some spelling, v, scan⟩ =
      .ok (reportJson (abi.functions.map
        (Assessment.finding bytecode (scan.getD config.scan)))) := by
  have hplain : checkPlain config ⟨some spelling, v, scan⟩ bytecode
      = .ok (abi.functions.map (Assessment.finding bytecode (scan.getD config.scan))) := by
    rw [checkPlain, Assessment.requireBytecode_of_ne hne, hvalue, ← Assessment.report_of_ne hne]
    rfl
  simp only [check, Option.getD_some, hnormalize, hplain]

/-- No bytecode is checked against a value that is no ABI. -/
theorem exists_checkPlain_eq_error {error : CheckError} (hvalue : Abi.ofJson v = .error error)
    (config : Config) (given : Option String) (scan : Option Strategy) (bytecode : String) :
    ∃ found, checkPlain config ⟨given, v, scan⟩ bytecode = .error found := by
  rw [checkPlain]
  cases Assessment.requireBytecode bytecode with
  | error found => exact ⟨found, rfl⟩
  | ok _ =>
    rw [hvalue]
    exact ⟨error, rfl⟩

/-- A check against a value that is no ABI is refused, with any bytecode. -/
theorem exists_check_eq_error {error : CheckError} (hvalue : Abi.ofJson v = .error error)
    (config : Config) (given : Option String) (scan : Option Strategy) :
    ∃ refusal, check config ⟨given, v, scan⟩ = .error refusal := by
  cases hnormalize : Hex.normalize (given.getD "") with
  | error found => exact ⟨.bytecode found, by simp only [check, hnormalize]⟩
  | ok bytecode =>
    obtain ⟨found, hplain⟩ := exists_checkPlain_eq_error hvalue config given scan bytecode
    exact ⟨.check found, by simp only [check, hnormalize, hplain]⟩

/-- A check by the service answers with the verdict on its inputs. -/
theorem shows_serve_check
    (hdecode : request.decode CheckQuery.reader = .ok ⟨some spelling, v, scan⟩) :
    (serve CheckQuery.reader (check config) request).Shows
      (.of spelling v (scan.getD config.scan)) := by
  -- The bytecode is judged first here, so its fault hides one of the ABI.
  cases hnormalize : Hex.normalize spelling with
  | error error =>
    have hcheck : check config ⟨some spelling, v, scan⟩ = .error (.bytecode error) := by
      simp only [check, Option.getD_some, hnormalize]
    rw [Verdict.of_of_normalize_error hnormalize, serve_of_refused hdecode hcheck]
    rfl
  | ok bytecode =>
    by_cases hne : bytecode = ""
    · subst hne
      have hcheck : check config ⟨some spelling, v, scan⟩ = .error (.check (.missing .bytecode)) := by
        simp only [check, Option.getD_some, hnormalize]
        rfl
      rw [Verdict.of_of_empty hnormalize, serve_of_refused hdecode hcheck]
      rfl
    · cases hvalue : Abi.ofJson v with
      | error error =>
        obtain ⟨refusal, hcheck⟩ := exists_check_eq_error hvalue config (some spelling) scan
        rw [Verdict.of_of_ofJson_error hvalue, serve_of_refused hdecode hcheck]
        rfl
      | ok abi =>
        rw [Verdict.of_of_ok hnormalize hne hvalue, ← Assessment.all_found_map_finding,
          serve_of_ok hdecode (check_of_ok hnormalize hne hvalue)]
        exact shows_reportJson _

/-- The service answers a check with the verdict on its inputs. -/
theorem shows_respond (hmethod : request.method = "POST") (hpath : request.path = "/satisfies")
    (hdecode : request.decode CheckQuery.reader = .ok ⟨some spelling, v, scan⟩) :
    (respond config request).Shows (.of spelling v (scan.getD config.scan)) := by
  rw [respond_check hmethod hpath]
  exact (shows_serve_check hdecode).withHeader _ _

end Service

end DispatchScan
