import DispatchScan.Proofs.Abi.RoundTrip
import DispatchScan.Proofs.CommandLine.Arguments
import DispatchScan.Proofs.CommandLine.Verdict
import DispatchScan.Proofs.Dispatch.Check
import DispatchScan.Proofs.Service.Body
import DispatchScan.Proofs.Service.Verdict

/-!
# One verdict for all front ends

The command line and the service look at the same inputs in different orders, and some stop at the
first missing function where others list all of them. Main statement: whatever way is taken, what is
shown is the verdict on the inputs alone.
-/

namespace DispatchScan

open Json CommandLine Service

/-- Code that compares the selector of a transfer twice, only the second time before a branch. -/
def twoComparisons : List UInt8 :=
  [0x63, 0xa9, 0x05, 0x9c, 0xbb, 0x14, 0x15, 0x63, 0xa9, 0x05, 0x9c, 0xbb, 0x14, 0x60, 0x45, 0x57]

/-- Surroundings without files, in which every node has this code at every address. -/
def twoComparisonsEverywhere : Surroundings where
  read := fun _ => .error .notFound
  network := fun _ _ => .reply
    "\x7b\"jsonrpc\":\"2.0\",\"id\":1,\"result\":\"0x63a9059cbb141563a9059cbb14604557\"\x7d"

/-- The configuration that asks for every occurrence. -/
def everyOccurrence : Config := { Config.default with scan := .allOccurrences }

/-- The code is found at the zero address of the default node. -/
theorem finds_twoComparisons :
    Node.Finds twoComparisonsEverywhere.network (nodeSettings everyOccurrence none)
      "0x0000000000000000000000000000000000000000" twoComparisons := by
  have hclient : Node.Client.ofSettings (nodeSettings everyOccurrence none)
      = .ok ⟨.default, ⟨"http", some ⟨.domain "localhost", some 8545⟩, "/", none, none⟩,
        .latest⟩ := by
    decide +kernel
  have hany : (Node.Reply.parse?
      "\x7b\"jsonrpc\":\"2.0\",\"id\":1,\"result\":\"0x63a9059cbb141563a9059cbb14604557\"\x7d").any
        (fun reply =>
          match reply with
          | .code bytes => bytes == twoComparisons
          | .refused .. => false) = true := by
    decide +kernel
  obtain ⟨reply, hreply, hbytes⟩ := (Option.any_eq_true _ _).mp hany
  cases reply with
  | code bytes =>
    rw [beq_iff_eq.mp hbytes] at hreply
    exact .intro hclient (by decide) Deployment.parse_zeroAddress rfl hreply
  | refused => exact absurd hbytes Bool.false_ne_true

/-- Every front end shows the verdict on the text of an ABI and a spelling of bytecode: a check by
accepted arguments, with or without a report, whose inputs stand in arguments or in files; a check
by the service, of a body that it decodes; and a check of an address whose code the spelling
spells. -/
theorem frontEnds_show_verdict {text spelling : String} {v : Value} (htext : parse text = .ok v)
    (hspelling : spelling.toList.head? ≠ some '@') (strategy : Strategy) :
    (∀ surroundings config abiArgument codeArgument report outcome,
      Runs surroundings config (.check abiArgument codeArgument report) outcome →
      Carries surroundings.read text abiArgument → Carries surroundings.read spelling codeArgument →
      config.scan = strategy →
      ∃ listed, (report = false → listed = []) ∧ outcome.Shows listed (.of spelling v strategy)) ∧
    (∀ config request scan, request.method = "POST" → request.path = "/satisfies" →
      request.decode CheckQuery.reader = .ok ⟨some spelling, v, scan⟩ →
      scan.getD config.scan = strategy →
      (respond config request).Shows (.of spelling v strategy)) ∧
    ∀ bytes surroundings config abiArgument addressText endpoint outcome,
      Hex.normalize spelling = .ok (Hex.encode bytes) →
      Runs surroundings config (.address abiArgument addressText endpoint) outcome →
      Carries surroundings.read text abiArgument →
      Node.Finds surroundings.network (nodeSettings config endpoint) addressText bytes →
      config.scan = strategy → outcome.Shows [] (.of spelling v strategy) := by
  refine ⟨?_, ?_, ?_⟩
  · intro surroundings config abiArgument codeArgument report outcome hruns habi hcode hscan
    rw [hruns.outcome_eq, ← hscan]
    exact shows_run_check htext hspelling habi hcode config report
  · intro config request scan hmethod hpath hdecode hscan
    rw [← hscan]
    exact shows_respond hmethod hpath hdecode
  · intro bytes surroundings config abiArgument addressText endpoint outcome hnormalize hruns habi
      hfinds hscan
    rw [hruns.outcome_eq, ← hscan]
    exact shows_run_address htext habi hnormalize hfinds

/-- With every occurrence asked for, all front ends answer that the code has a transfer. -/
theorem frontEnds_show_transfer :
    parse (Abi.singleton .transfer).render = .ok (Abi.singleton .transfer).toJson ∧
    "0x63A9059CBB141563A9059CBB14604557".toList.head? ≠ some '@' ∧
    (∃ outcome, Runs twoComparisonsEverywhere everyOccurrence
      (.check (Abi.singleton .transfer).render "0x63A9059CBB141563A9059CBB14604557" false) outcome ∧
      outcome.Shows [] .satisfied) ∧
    (respond everyOccurrence (checkRequest "0x63A9059CBB141563A9059CBB14604557"
      (Abi.singleton .transfer).toJson)).Shows .satisfied ∧
    ∃ outcome, Runs twoComparisonsEverywhere everyOccurrence
      (.address (Abi.singleton .transfer).render "0x0000000000000000000000000000000000000000" none)
      outcome ∧ outcome.Shows [] .satisfied := by
  have htext : parse (Abi.singleton .transfer).render = .ok (Abi.singleton .transfer).toJson :=
    parse_render ((Abi.singleton .transfer).plain_toJson 123)
  have hspelling : "0x63A9059CBB141563A9059CBB14604557".toList.head? ≠ some '@' := by decide
  have hnormalize : Hex.normalize "0x63A9059CBB141563A9059CBB14604557"
      = .ok (Hex.encode twoComparisons) := by
    decide +kernel
  have hverdict : Verdict.of "0x63A9059CBB141563A9059CBB14604557" (Abi.singleton .transfer).toJson
      .allOccurrences = .satisfied := by
    have hoccurs : Dispatch.occurs (Hex.encode twoComparisons) Declaration.transfer.selector
        .allOccurrences = true := by
      rw [Declaration.selector_transfer]
      decide +kernel
    rw [Verdict.of_of_ok hnormalize (by decide) (Abi.ofJson_toJson _), Abi.singleton,
      List.all_cons, hoccurs]
    rfl
  obtain ⟨hcheck, hservice, haddress⟩ := frontEnds_show_verdict htext hspelling .allOccurrences
  rw [hverdict] at hcheck hservice haddress
  refine ⟨htext, hspelling, ?_, ?_, ?_⟩
  · have hname : strategy? "all" = some .allOccurrences := rfl
    have hparse := parse_checkArguments hname none (Abi.singleton .transfer).render
      "0x63A9059CBB141563A9059CBB14604557" false
    have hruns : Runs twoComparisonsEverywhere everyOccurrence _ _ := .intro hparse rfl rfl
    obtain ⟨listed, hlisted, hshows⟩ := hcheck _ _ _ _ _ _ hruns .inline .inline rfl
    obtain rfl := hlisted rfl
    exact ⟨_, hruns, hshows⟩
  · have hplain := (Abi.singleton .transfer).plain_toJson 122
    have hsize : (Text.utf8 (checkBody "0x63A9059CBB141563A9059CBB14604557"
        (Abi.singleton .transfer).toJson).render).length ≤ maxBodySize := by
      rw [Value.utf8_render]
      decide +kernel
    exact hservice _ _ none rfl (by decide +kernel) (decode_checkRequest hplain hsize) rfl
  · have hparse : Invocation.parse none ["address", "--scan=all",
        "--abi=" ++ (Abi.singleton .transfer).render, "--",
        "0x0000000000000000000000000000000000000000"]
        = .ok ⟨none, some .allOccurrences, false, .address (Abi.singleton .transfer).render
          "0x0000000000000000000000000000000000000000" none⟩ := by
      decide +kernel
    have hruns : Runs twoComparisonsEverywhere everyOccurrence _ _ := .intro hparse rfl rfl
    exact ⟨_, hruns, haddress _ _ _ _ _ _ _ hnormalize hruns .inline finds_twoComparisons rfl⟩

end DispatchScan
