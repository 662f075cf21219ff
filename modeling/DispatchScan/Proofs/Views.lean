import DispatchScan.Proofs.Abi.RoundTrip
import DispatchScan.Proofs.Assessment.Rows
import DispatchScan.Proofs.CommandLine.Arguments
import DispatchScan.Proofs.CommandLine.Listing
import DispatchScan.Proofs.Dispatch.Check
import DispatchScan.Proofs.Service.Body
import DispatchScan.Proofs.Service.Listing

/-!
# One list behind all views of an ABI

Signatures, selectors and findings are listed by two commands, by a report, and by two answers of
the service to bodies that it decodes, each from an ABI that it reads by itself. Main statement: one
list of rows stands behind all of them, with a row for each declaring entry, and a value that is no
ABI is listed by none.
-/

namespace DispatchScan

open Json CommandLine Service

/-- Every view of the text of an ABI and of its value shows the given rows, for any spelling of the
bytecode and a strategy. -/
structure Views (text : String) (v : Value) (spelling : String) (strategy : Strategy)
    (rows : List Finding) : Prop where
  /-- A listing of signatures prints the signature of each row. -/
  signature : ∀ surroundings config argument outcome,
    Runs surroundings config (.signature argument) outcome →
    Carries surroundings.read text argument →
    outcome.exitCode = 0 ∧ outcome.entries = rows.map Finding.signature
  /-- A listing of selectors prints the selector of each row in front of its signature. -/
  selector : ∀ surroundings config argument outcome,
    Runs surroundings config (.selector argument) outcome →
    Carries surroundings.read text argument →
    outcome.exitCode = 0 ∧
      outcome.entries = rows.map fun row => "0x" ++ row.selector ++ "  " ++ row.signature
  /-- A report prints the same with a mark for each row, and the verdict behind all rows. -/
  report : ∀ surroundings config abiArgument codeArgument outcome,
    Runs surroundings config (.check abiArgument codeArgument true) outcome →
    Carries surroundings.read text abiArgument → Carries surroundings.read spelling codeArgument →
    config.scan = strategy →
    outcome.Shows (rows.map fun row => "0x" ++ row.selector ++ "  " ++ row.signature ++ "  " ++
        if row.found then "found" else "missing")
      (.ofBool (rows.all Finding.found))
  /-- An answer with signatures to a decoded body shows the signature and the selector of each
  row. -/
  signatures : ∀ config request, request.method = "POST" → request.path = "/signature" →
    request.decode SignatureQuery.reader = .ok ⟨v⟩ → (respond config request).ListsSignatures rows
  /-- An answer to a check in a decoded body shows these and whether the row was found. -/
  functions : ∀ config request scan, request.method = "POST" → request.path = "/satisfies" →
    request.decode CheckQuery.reader = .ok ⟨some spelling, v, scan⟩ →
    scan.getD config.scan = strategy → (respond config request).ListsFunctions rows

/-- No view of the text of an ABI and of its value shows anything but a failure. -/
structure NoViews (text : String) (v : Value) : Prop where
  /-- Whatever is to be done with the text, nothing is printed. -/
  commandLine : ∀ surroundings config action outcome,
    Runs surroundings config action outcome → Carries surroundings.read text action.abi →
    outcome.exitCode = 2 ∧ outcome.entries = []
  /-- No signatures are answered. -/
  signatures : ∀ config request, request.method = "POST" → request.path = "/signature" →
    request.decode SignatureQuery.reader = .ok ⟨v⟩ → (respond config request).TurnsDown
  /-- No check is answered, with any bytecode and strategy. -/
  functions : ∀ config request spelling scan, request.method = "POST" →
    request.path = "/satisfies" →
    request.decode CheckQuery.reader = .ok ⟨spelling, v, scan⟩ → (respond config request).TurnsDown

variable {text spelling bytecode : String} {v : Value} {strategy : Strategy}

/-- Every view of an accepted value shows the findings of its functions. -/
theorem views_findings (htext : parse text = .ok v) {abi : Abi} (hvalue : Abi.ofJson v = .ok abi)
    (hnormalize : Hex.normalize spelling = .ok bytecode) (hne : bytecode ≠ "") :
    Views text v spelling strategy
      (abi.functions.map (Assessment.finding bytecode strategy)) := by
  have hload : ∀ {read argument}, Carries read text argument → loadAbi read argument = .ok abi := by
    intro read argument hcarries
    rw [loadAbi_of_carries hcarries htext, hvalue]
    rfl
  constructor
  · intro surroundings config argument outcome hruns hcarries
    rw [hruns.outcome_eq, run_signature (hload hcarries)]
    exact ⟨rfl, entries_list_signature abi bytecode strategy⟩
  · intro surroundings config argument outcome hruns hcarries
    rw [hruns.outcome_eq, run_selector (hload hcarries)]
    exact ⟨rfl, entries_list_selector abi bytecode strategy⟩
  · rintro surroundings config abiArgument codeArgument outcome hruns hcarries hcode rfl
    have hbytecode : loadBytecode surroundings.read codeArgument = .ok bytecode := by
      rw [loadBytecode_of_carries hcode (Hex.head?_ne_of_normalize hnormalize), Bytecode.ofText,
        hnormalize]
      rfl
    rw [hruns.outcome_eq, run_report (hload hcarries) hbytecode hne,
      Assessment.all_found_map_finding]
    exact shows_of_ok _ _
  · intro config request hmethod hpath hdecode
    exact listsSignatures_respond hmethod hpath hdecode hvalue bytecode strategy
  · rintro config request scan hmethod hpath hdecode rfl
    exact listsFunctions_respond hmethod hpath hdecode hnormalize hne hvalue

/-- No view of a refused value shows anything. -/
theorem noViews (htext : parse text = .ok v) {error : CheckError}
    (hvalue : Abi.ofJson v = .error error) : NoViews text v where
  commandLine surroundings config action outcome hruns hcarries := by
    have hload : loadAbi surroundings.read action.abi = .error (.check error) := by
      rw [loadAbi_of_carries hcarries htext, hvalue]
      rfl
    rw [hruns.outcome_eq]
    exact outcome_of_refused (.abi hload)
  signatures config request hmethod hpath hdecode :=
    turnsDown_respond_signatures hmethod hpath hdecode hvalue
  functions config request spelling scan hmethod hpath hdecode :=
    turnsDown_respond_check hmethod hpath hdecode hvalue

/-- For every text that is the JSON of a value: if the value is an ABI, one list of rows stands
behind all views of it, with bytecode that is not empty and with any strategy; it has a row for each
entry that declares a function, in order. If the value is no ABI, no view shows anything. -/
theorem views_list_declarations (htext : parse text = .ok v) :
    (∀ abi spelling bytecode strategy, Abi.ofJson v = .ok abi →
      Hex.normalize spelling = .ok bytecode → bytecode ≠ "" →
      ∃ rows, List.Forall₂ (Assessment.Describes bytecode strategy) (Abi.declaring v) rows ∧
        Views text v spelling strategy rows) ∧
    ∀ error, Abi.ofJson v = .error error → NoViews text v := by
  constructor
  · intro abi spelling bytecode strategy hvalue hnormalize hne
    exact ⟨_, Assessment.forall₂_describes hvalue bytecode strategy,
      views_findings htext hvalue hnormalize hne⟩
  · intro error hvalue
    exact noViews htext hvalue

/-- Surroundings without files, in which no node is there. -/
def nothingAround : Surroundings where
  read := fun _ => .error .notFound
  network := fun _ _ => .silent

/-- An ABI with an event in front of a function that is declared twice. -/
def eventAndTransfers : Value :=
  .array [.object [("type", .string "event"), ("name", .string "Transfer")],
    Declaration.transfer.toJson, Declaration.transfer.toJson]

/-- The ABI with an event is plain. -/
theorem plain_eventAndTransfers (depth : Nat) : Plain (depth + 4) eventAndTransfers := by
  have hkey : "type" ≠ embeddedKey := by decide
  have hevent : Plain (depth + 3)
      (.object [("type", .string "event"), ("name", .string "Transfer")]) := by
    refine .object ?_ fun m hm => Option.some.inj hm ▸ hkey
    exact List.forall_mem_cons.mpr ⟨.string _ _, List.forall_mem_singleton.mpr (.string _ _)⟩
  have htransfer := Declaration.transfer.plain_toJson depth
  exact .array (List.forall_mem_cons.mpr
    ⟨hevent, List.forall_mem_cons.mpr ⟨htransfer, List.forall_mem_singleton.mpr htransfer⟩⟩)

/-- The event declares nothing, and the function counts twice. -/
theorem declaring_eventAndTransfers :
    Abi.declaring eventAndTransfers = [Declaration.transfer.toJson, Declaration.transfer.toJson] := by
  rw [eventAndTransfers, Abi.declaring, ← Abi.filter_isFunctionEntry]
  rfl

/-- The row of a transfer that occurs. -/
def transferRow : Finding := ⟨"transfer(address,uint256)", "a9059cbb", true⟩

/-- Code with a check for a transfer has the row of a transfer. -/
theorem eq_transferRow {row : Finding}
    (h : Assessment.Describes "63a9059cbb14604557" .firstOccurrence Declaration.transfer.toJson
      row) : row = transferRow := by
  have hsignature : Declaration.transfer.signature = "transfer(address,uint256)" := by decide
  have hselector : Declaration.transfer.selector.text = "a9059cbb" := by
    rw [Declaration.selector_transfer]
    decide
  have hoccurs : Dispatch.occurs "63a9059cbb14604557" Declaration.transfer.selector
      .firstOccurrence = true := by
    rw [Declaration.selector_transfer]
    decide +kernel
  rw [h.eq_finding Declaration.transfer.isDeclaration_toJson, Assessment.finding, hsignature,
    hselector, hoccurs, transferRow]

/-- An event and two transfers are seen as two transfers by the commands, by a report and by the
service. -/
theorem views_list_transfers :
    parse eventAndTransfers.render = .ok eventAndTransfers ∧
    (∃ outcome, Runs nothingAround .default (.signature eventAndTransfers.render) outcome ∧
      outcome.entries = ["transfer(address,uint256)", "transfer(address,uint256)"]) ∧
    (∃ outcome, Runs nothingAround .default (.selector eventAndTransfers.render) outcome ∧
      outcome.entries =
        ["0xa9059cbb  transfer(address,uint256)", "0xa9059cbb  transfer(address,uint256)"]) ∧
    (∃ outcome, Runs nothingAround .default
      (.check eventAndTransfers.render "0x63A9059CBB14604557" true) outcome ∧
      outcome.entries = ["0xa9059cbb  transfer(address,uint256)  found",
        "0xa9059cbb  transfer(address,uint256)  found", "true"]) ∧
    (respond .default (signatureRequest eventAndTransfers)).ListsSignatures
      [transferRow, transferRow] ∧
    (respond .default (checkRequest "0x63A9059CBB14604557" eventAndTransfers)).ListsFunctions
      [transferRow, transferRow] := by
  have htext : parse eventAndTransfers.render = .ok eventAndTransfers :=
    parse_render (plain_eventAndTransfers 123)
  have hplain := plain_eventAndTransfers 122
  have htransfer := Declaration.transfer.isDeclaration_toJson
  have hvalue : Abi.ofJson eventAndTransfers = .ok ⟨[.transfer, .transfer]⟩ := by
    refine Abi.ofJson_eq_of_reading (.list ?_)
    exact declaring_eventAndTransfers ▸ .cons htransfer (.cons htransfer .nil)
  have hnormalize : Hex.normalize "0x63A9059CBB14604557" = .ok "63a9059cbb14604557" := by
    decide +kernel
  obtain ⟨rows, hrows, hviews⟩ := (views_list_declarations htext).1 _ _ _ .firstOccurrence hvalue
    hnormalize (by decide)
  have hrows : rows = [transferRow, transferRow] := by
    rw [declaring_eventAndTransfers] at hrows
    obtain ⟨first, _, hfirst, hrest, rfl⟩ := List.forall₂_cons_left_iff.mp hrows
    obtain ⟨second, _, hsecond, hnone, rfl⟩ := List.forall₂_cons_left_iff.mp hrest
    obtain rfl := List.forall₂_nil_left_iff.mp hnone
    rw [eq_transferRow hfirst, eq_transferRow hsecond]
  subst hrows
  refine ⟨htext, ?_, ?_, ?_, ?_, ?_⟩
  · have hruns : Runs nothingAround .default _ _ :=
      .intro (parse_signatureArguments none eventAndTransfers.render) rfl rfl
    exact ⟨_, hruns, (hviews.signature _ _ _ _ hruns .inline).2⟩
  · have hruns : Runs nothingAround .default _ _ :=
      .intro (parse_selectorArguments none eventAndTransfers.render) rfl rfl
    exact ⟨_, hruns, (hviews.selector _ _ _ _ hruns .inline).2⟩
  · have hname : strategy? "first" = some .firstOccurrence := rfl
    have hruns : Runs nothingAround .default _ _ :=
      .intro (parse_checkArguments hname none eventAndTransfers.render "0x63A9059CBB14604557" true)
        rfl rfl
    exact ⟨_, hruns, (hviews.report _ _ _ _ _ hruns .inline .inline rfl).2⟩
  · have hsize : (Text.utf8 (signatureBody eventAndTransfers).render).length ≤ maxBodySize := by
      rw [Value.utf8_render]
      decide +kernel
    exact hviews.signatures _ _ rfl (by decide +kernel) (decode_signatureRequest hplain hsize)
  · have hsize : (Text.utf8 (checkBody "0x63A9059CBB14604557" eventAndTransfers).render).length
        ≤ maxBodySize := by
      rw [Value.utf8_render]
      decide +kernel
    exact hviews.functions _ _ none rfl (by decide +kernel) (decode_checkRequest hplain hsize) rfl

end DispatchScan
