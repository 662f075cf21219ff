import DispatchScan.Proofs.Deployment.Plain
import DispatchScan.Proofs.Dispatch.Check

/-!
# Runs against a source of code

Which calls a run makes, and what its result depends on. A text that is no address makes no call;
every other run asks once, for the address that the text names, and its result is that of the plain
form of the answer. Main statements: the protocol of a run, and how far fetched code is assessed
like bytecode from users.
-/

namespace DispatchScan.Deployment

variable {ε : Type} {source : CodeSource ε} {text : String}

/-- A text that is no address is refused before the source is asked. -/
theorem assess_of_refused {error : CheckError} (haddress : Address.parse text = .error error)
    (abi : Abi) (strategy : Strategy) :
    assess source text abi strategy = ⟨[], .error (.refused error)⟩ := by
  unfold assess assessVia
  rw [haddress]
  rfl

/-- A valid address whose code is known is assessed by this code. -/
theorem assess_of_ok {code : String} {address : Address}
    (haddress : Address.parse text = .ok address) (hcode : source address = .ok code) (abi : Abi)
    (strategy : Strategy) :
    assess source text abi strategy = ⟨[address], assessCode code abi strategy⟩ := by
  unfold assess assessVia noting
  rw [haddress]
  simp only [hcode]
  rfl

/-- A valid address whose code the source refuses ends with the error of the source. -/
theorem assess_of_source_error {error : ε} {address : Address}
    (haddress : Address.parse text = .ok address) (hcode : source address = .error error)
    (abi : Abi) (strategy : Strategy) :
    assess source text abi strategy = ⟨[address], .error (.source error)⟩ := by
  unfold assess assessVia noting
  rw [haddress]
  simp only [hcode]
  rfl

/-- A text names an address at which the source gives the answer. -/
def Answers (source : CodeSource ε) (text : String) (address : Address)
    (answer : Except ε String) : Prop :=
  Address.parse text = .ok address ∧ source address = answer

/-- A run that has an answer makes one call, for the address that the text names. -/
theorem calls_assess_of_parse {address : Address} (haddress : Address.parse text = .ok address)
    (abi : Abi) (strategy : Strategy) : (assess source text abi strategy).calls = [address] := by
  cases hcode : source address with
  | error error => rw [assess_of_source_error haddress hcode]
  | ok code => rw [assess_of_ok haddress hcode]

/-- A check is never refused with an error of the source. -/
theorem mapError_refused_ne_source (checked : Except CheckError Bool) (error : ε) :
    checked.mapError AssessError.refused ≠ .error (.source error) := by
  cases checked with
  | error refusal => exact fun h => absurd (Except.error.inj h) nofun
  | ok satisfied => exact nofun

/-- The result of a run whose source gives code is the verdict on the plain form of the code. -/
theorem Answers.result_eq {address : Address} {code : String}
    (h : Answers source text address (.ok code)) (abi : Abi) (strategy : Strategy) :
    (assess source text abi strategy).result =
      (Assessment.satisfies (plain code) abi strategy).mapError AssessError.refused := by
  rw [assess_of_ok h.1 h.2, assessCode]

/-- A text that is no address makes no call and is refused with the text. Every other text makes one
call, for the address that it names. An error of the source is passed on, and code never becomes
one. Two runs for one address end alike, calls and result, when the bodies of the fetched codes
differ in case only; a body that spells bytes is assessed as their digits, and is missing where
there are no bytes. -/
theorem assess_protocol (source : CodeSource ε) (text : String) (abi : Abi) (strategy : Strategy) :
    (∀ error, Address.parse text = .error error →
      assess source text abi strategy = ⟨[], .error (.refused (.address text))⟩) ∧
    (∀ address, Address.parse text = .ok address →
      (assess source text abi strategy).calls = [address]) ∧
    (∀ address error, Answers source text address (.error error) →
      (assess source text abi strategy).result = .error (.source error)) ∧
    (∀ address code error, Answers source text address (.ok code) →
      (assess source text abi strategy).result ≠ .error (.source error)) ∧
    ∀ address code body, Answers source text address (.ok code) → Frames code body →
      (∀ otherSource otherText otherCode otherBody,
        Answers otherSource otherText address (.ok otherCode) → Frames otherCode otherBody →
        Text.SameLetters body otherBody →
        assess otherSource otherText abi strategy = assess source text abi strategy) ∧
      ∀ bytes, Text.SameLetters body (Hex.digits bytes) →
        (assess source text abi strategy).result =
          (Assessment.satisfies (Hex.encode bytes) abi strategy).mapError AssessError.refused ∧
        (bytes = [] →
          (assess source text abi strategy).result = .error (.refused (.missing .bytecode))) := by
  refine ⟨?_, fun address haddress => calls_assess_of_parse haddress abi strategy, ?_, ?_, ?_⟩
  · intro error haddress
    rw [assess_of_refused haddress, Address.eq_of_parse_eq_error haddress]
  · intro address error hanswer
    rw [assess_of_source_error hanswer.1 hanswer.2]
  · intro address code error hanswer
    rw [hanswer.result_eq]
    exact mapError_refused_ne_source _ error
  · intro address code body hanswer hframes
    refine ⟨?_, fun bytes hspells => ?_⟩
    · intro otherSource otherText otherCode otherBody hother hotherFrames hsame
      rw [assess_of_ok hanswer.1 hanswer.2, assess_of_ok hother.1 hother.2, assessCode, assessCode,
        plain_eq_of_sameLetters hframes hotherFrames hsame]
    · rw [hanswer.result_eq, plain_of_sameLetters_digits hframes hspells]
      refine ⟨rfl, ?_⟩
      rintro rfl
      rfl

/-- A deployed dispatcher of transfers. -/
def transferCode : String := "0x63a9059cbb14604557"

/-- The same code in other letters and in white space. -/
def framedTransferCode : String := "\n0X63A9059CBB14604557 "

/-- The address of the deployed dispatcher. -/
def transferAddress : Address :=
  ⟨[0x5a, 0xae, 0xb6, 0x05, 0x3f, 0x3e, 0x94, 0xc9, 0xb9, 0xa0, 0x9f, 0x33, 0x66, 0x94, 0x35, 0xe7,
    0xef, 0x1b, 0xea, 0xed], rfl⟩

/-- The source with the same code at every address. -/
def everywhere (code : String) : CodeSource Empty := fun _ => .ok code

/-- The checksum case and lowercase name one address, and two sources that frame one body
differently give one run. -/
theorem assess_protocol_same_body :
    assess (everywhere framedTransferCode) "0x5aaeb6053f3e94c9b9a09f33669435e7ef1beaed"
        (.singleton .transfer) .firstOccurrence =
      assess (everywhere transferCode) "0x5aAeb6053F3E94C9b9A09f33669435E7Ef1BeAed"
        (.singleton .transfer) .firstOccurrence ∧
    (assess (everywhere transferCode) "0x5aAeb6053F3E94C9b9A09f33669435E7Ef1BeAed"
      (.singleton .transfer) .firstOccurrence).calls = [transferAddress] := by
  have hanswer : Answers (everywhere transferCode) "0x5aAeb6053F3E94C9b9A09f33669435E7Ef1BeAed"
      transferAddress (.ok transferCode) :=
    ⟨by decide +kernel, rfl⟩
  have hother : Answers (everywhere framedTransferCode) "0x5aaeb6053f3e94c9b9a09f33669435e7ef1beaed"
      transferAddress (.ok framedTransferCode) :=
    ⟨by decide +kernel, rfl⟩
  have hbody : Text.NoBlank "63a9059cbb14604557".toList := by decide
  have hotherBody : Text.NoBlank "63A9059CBB14604557".toList := by decide
  have hframes : Frames transferCode "63a9059cbb14604557".toList :=
    ⟨[], ['0', 'x'], [], rfl, by decide, by decide, by decide, hbody.bounded, by decide⟩
  have hotherFrames : Frames framedTransferCode "63A9059CBB14604557".toList :=
    ⟨['\n'], ['0', 'X'], [' '], rfl, by decide, by decide, by decide, hotherBody.bounded, by decide⟩
  have hletters : Text.SameLetters "63a9059cbb14604557".toList "63A9059CBB14604557".toList := by
    decide
  obtain ⟨-, hcalls, -, -, hsame⟩ := assess_protocol (everywhere transferCode)
    "0x5aAeb6053F3E94C9b9A09f33669435E7Ef1BeAed" (.singleton .transfer) .firstOccurrence
  obtain ⟨hrun, -⟩ := hsame transferAddress transferCode _ hanswer hframes
  exact ⟨hrun _ _ _ _ hother hotherFrames hletters, hcalls _ hanswer.1⟩

/-- Forty zeros name the address of twenty zero bytes. -/
theorem parse_zeroAddress : Address.parse "0x0000000000000000000000000000000000000000"
    = .ok ⟨List.replicate 20 0x00, rfl⟩ := by
  decide +kernel

/-- Code that spells bytes is assessed in its plain form, which is the normal form of bytecode from
users exactly when white space stands around the code only. In this case it is assessed as bytecode
from users is; white space inside is deleted there, but stays here. -/
theorem assess_of_normalize {code normal : String} (hnormal : Hex.normalize code = .ok normal) :
    (plain code = normal ↔ Text.BlankOnlyAround code.toList) ∧
    ∀ (source : CodeSource ε) text address, Answers source text address (.ok code) →
      ∀ abi strategy,
        (assess source text abi strategy).result =
          (Assessment.satisfies (plain code) abi strategy).mapError AssessError.refused ∧
        (Text.BlankOnlyAround code.toList →
          (assess source text abi strategy).result =
            (Assessment.satisfies normal abi strategy).mapError AssessError.refused) := by
  have hplain := plain_eq_normal_iff hnormal
  refine ⟨hplain, fun source text address hanswer abi strategy => ?_⟩
  refine ⟨hanswer.result_eq abi strategy, fun haround => ?_⟩
  rw [hanswer.result_eq, hplain.mpr haround]

/-- Code in white space is assessed as bytecode from users is. -/
theorem assess_of_normalize_framed :
    Hex.normalize framedTransferCode = .ok "63a9059cbb14604557" ∧
    (assess (everywhere framedTransferCode) "0x0000000000000000000000000000000000000000"
      (.singleton .transfer) .firstOccurrence).result =
        (Assessment.satisfies "63a9059cbb14604557" (.singleton .transfer)
          .firstOccurrence).mapError AssessError.refused := by
  have hnormal : Hex.normalize framedTransferCode = .ok "63a9059cbb14604557" := by decide +kernel
  have haround : Text.BlankOnlyAround framedTransferCode.toList :=
    ⟨['\n'], "0X63A9059CBB14604557".toList, [' '], rfl, by decide, by decide, by decide⟩
  exact ⟨hnormal, ((assess_of_normalize hnormal).2 _ _ _ ⟨parse_zeroAddress, rfl⟩ _ _).2 haround⟩

/-- With a space inside its selector the same code has a transfer as bytecode from users, but not
as fetched code. -/
theorem assess_ne_satisfies_of_inner_blank :
    Hex.normalize "0x63a9059c bb14604557" = .ok "63a9059cbb14604557" ∧
    Assessment.satisfies "63a9059cbb14604557" (.singleton .transfer) .firstOccurrence = .ok true ∧
    (assess (everywhere "0x63a9059c bb14604557") "0x0000000000000000000000000000000000000000"
      (.singleton .transfer) .firstOccurrence).result =
        .ok false := by
  have hnormal : Hex.normalize "0x63a9059c bb14604557" = .ok "63a9059cbb14604557" := by
    decide +kernel
  have hplain : plain "0x63a9059c bb14604557" = "63a9059c bb14604557" := by decide +kernel
  have hfound : Dispatch.occurs "63a9059cbb14604557" Declaration.transfer.selector
      .firstOccurrence = true := by
    rw [Declaration.selector_transfer]
    decide +kernel
  have hmissed : Dispatch.occurs "63a9059c bb14604557" Declaration.transfer.selector
      .firstOccurrence = false := by
    rw [Declaration.selector_transfer]
    decide +kernel
  refine ⟨hnormal, ?_, ?_⟩
  · rw [Assessment.satisfies_singleton_of_ne (by decide), hfound]
  · rw [assess_of_ok parse_zeroAddress rfl, assessCode, hplain,
      Assessment.satisfies_singleton_of_ne (by decide), hmissed]
    rfl

end DispatchScan.Deployment
