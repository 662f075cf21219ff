import DispatchScan.Dispatch.Search
import DispatchScan.Proofs.Dispatch.Branch
import DispatchScan.Proofs.Dispatch.Visit
import DispatchScan.Proofs.Text.Boundary

/-!
# What a search examines

A search cuts a text before it looks for a probe and again behind the probe. Both cuts succeed in
every text: a probe is ASCII, so each of its bytes has boundaries on both sides. Main statement: no
round fails, the positions of the rounds increase, and the probes looked at are the first ones of the
text, without a gap, up to the first that a branch follows.
-/

namespace DispatchScan.Dispatch

section Branch

variable {tail : List UInt8}

/-- Without `PUSHn` at the front nothing is read but the byte there. -/
theorem readBranch_of_none (h : byteAt? tail 0 >>= Opcode.pushWidth? = none) :
    readBranch tail = (false, [0]) := by
  simp only [readBranch, branchesVia, noting, StateT.run_bind, StateT.run_modify, StateT.run_pure,
    pure_bind, h]
  rfl

/-- Behind `PUSHn` the byte after `n` others is read. -/
theorem readBranch_of_some {width : Nat} (h : byteAt? tail 0 >>= Opcode.pushWidth? = some width) :
    readBranch tail = (byteAt? tail (1 + width) == some Opcode.jumpi.toByte, [0, 1 + width]) := by
  simp only [readBranch, branchesVia, noting, StateT.run_bind, StateT.run_modify, StateT.run_pure,
    pure_bind, h]
  rfl

/-- The branch that is read by indices is the branch of the scan. -/
theorem readBranch_fst (tail : List UInt8) : (readBranch tail).1 = branches tail := by
  unfold branches
  cases hwidth : byteAt? tail 0 >>= Opcode.pushWidth? with
  | none => rw [readBranch_of_none hwidth]
  | some width => rw [readBranch_of_some hwidth]

/-- The indices of the bytes that are read are small, as a push is of 32 bytes at most. -/
theorem le_of_mem_readBranch {index : Nat} (h : index ∈ (readBranch tail).2) : index ≤ 33 := by
  cases hwidth : byteAt? tail 0 >>= Opcode.pushWidth? with
  | none =>
    rw [readBranch_of_none hwidth, List.mem_singleton] at h
    omega
  | some width =>
    obtain ⟨push, -, hpush⟩ := Option.bind_eq_some_iff.mp hwidth
    have hle := (pushWidth?_eq_some_iff.mp hpush).2.1
    simp only [readBranch_of_some hwidth, List.mem_cons, List.not_mem_nil, or_false] at h
    omega

end Branch

section Boundaries

variable {text : String} {selector : Selector}

/-- The bytes of a probe are ASCII. -/
theorem toNat_lt_of_mem_probe {b : UInt8} (h : b ∈ Text.utf8 (probe selector)) :
    b.toNat < 0x80 := by
  have hascii : ∀ n < 16, (UInt8.ofNat (Nat.digitChar n).toNat).toNat < 0x80 := by decide
  obtain ⟨n, hn, rfl⟩ := (Hex.isPlain_encode (probeBytes selector)).mem_utf8 b h
  exact hascii n hn

/-- A text can be cut behind each byte of a probe. -/
theorem ProbeAt.isValid {start : Nat}
    (h : ProbeAt (Text.utf8 (probe selector)) (Text.utf8 text) start) (count : Nat)
    (hcount : count < 12) : String.Pos.Raw.IsValid text ⟨start + count + 1⟩ := by
  have hlength : count < (Text.utf8 (probe selector)).length := by
    rw [length_utf8_probe]
    exact hcount
  have hbyte : (Text.utf8 text)[start + count]? = some (Text.utf8 (probe selector))[count] := by
    rw [← List.getElem?_drop]
    exact List.prefix_iff_getElem?.mp h count hlength
  have hascii := toNat_lt_of_mem_probe (List.getElem_mem hlength)
  exact (Text.isValid_of_ascii_byte hbyte hascii).2

end Boundaries

/-- The first probe from a position on is looked at, between two boundaries of the text. -/
structure Examines (text : String) (selector : Selector) (position : Nat) (visit : Visit)
    (indices : List Nat) : Prop where
  /-- The text can be cut at the position. -/
  boundary : String.Pos.Raw.IsValid text ⟨position⟩
  /-- The probe does not start before the position. -/
  position_le : position ≤ visit.start
  /-- It does start there. -/
  probeAt : ProbeAt (Text.utf8 (probe selector)) (Text.utf8 text) visit.start
  /-- No other probe starts in between. -/
  first : ∀ earlier, position ≤ earlier → earlier < visit.start →
    ¬ProbeAt (Text.utf8 (probe selector)) (Text.utf8 text) earlier
  /-- The text can be cut behind the probe. -/
  boundary_behind : String.Pos.Raw.IsValid text ⟨visit.start + 12⟩
  /-- The branch is that of the text behind the probe. -/
  branches_eq : visit.branches = branches ((Text.utf8 text).drop (visit.start + 12))
  /-- The indices of the bytes that are read are small. -/
  index_le : ∀ index ∈ indices, index ≤ 33

/-- No probe starts from a boundary of a text on. -/
structure Exhausts (text : String) (selector : Selector) (position : Nat) : Prop where
  /-- The text can be cut at the position. -/
  boundary : String.Pos.Raw.IsValid text ⟨position⟩
  /-- No probe starts there or later. -/
  not_probeAt : ∀ start, position ≤ start →
    ¬ProbeAt (Text.utf8 (probe selector)) (Text.utf8 text) start

section Step

variable {text : String} {selector : Selector} {position : Nat}

/-- Where a probe starts the text can be cut behind it, and the probe is looked at. -/
theorem turnOn_of_probeAt {start : Nat}
    (h : ProbeAt (Text.utf8 (probe selector)) (Text.utf8 text) start) :
    turnOn text selector start =
      .visited ⟨start, branches ((Text.utf8 text).drop (start + 12))⟩
        (readBranch ((Text.utf8 text).drop (start + 12))).2 := by
  have hbehind : String.Pos.Raw.IsValid text ⟨start + 12⟩ := h.isValid 11 (by omega)
  have hcut := Text.bytesFrom?_eq_some_iff.mpr ⟨hbehind, rfl⟩
  rw [turnOn, length_utf8_probe, hcut]
  simp only [readBranch_fst]

/-- Where nothing is found behind a boundary, no probe starts there or later. -/
theorem exhausts_of_find? (hvalid : String.Pos.Raw.IsValid text ⟨position⟩)
    (hfind : Text.find? (Text.utf8 (probe selector)) ((Text.utf8 text).drop position) = none) :
    Exhausts text selector position where
  boundary := hvalid
  not_probeAt := by
    intro start hle hstart
    obtain ⟨count, rfl⟩ := Nat.exists_eq_add_of_le hle
    exact Text.find?_eq_none_iff.mp hfind count (probeAt_drop_iff.mpr hstart)

/-- What is found behind a boundary is the first probe there. -/
theorem examines_of_find? {count : Nat} (hvalid : String.Pos.Raw.IsValid text ⟨position⟩)
    (hfind : Text.find? (Text.utf8 (probe selector)) ((Text.utf8 text).drop position)
      = some count) :
    Examines text selector position
      ⟨position + count, branches ((Text.utf8 text).drop (position + count + 12))⟩
      (readBranch ((Text.utf8 text).drop (position + count + 12))).2 := by
  obtain ⟨-, hprobe, hfirst⟩ := Text.find?_eq_some_iff.mp hfind
  have hstart := probeAt_drop_iff.mp hprobe
  refine
    { boundary := hvalid
      position_le := Nat.le_add_right _ _
      probeAt := hstart
      first := ?_
      boundary_behind := hstart.isValid 11 (by omega)
      branches_eq := rfl
      index_le := fun _ => le_of_mem_readBranch }
  intro earlier hle hlt hearlier
  obtain ⟨inner, rfl⟩ := Nat.exists_eq_add_of_le hle
  exact hfirst inner (Nat.lt_of_add_lt_add_left hlt) (probeAt_drop_iff.mpr hearlier)

/-- From a boundary on either no probe starts or the first one is looked at. -/
theorem exhausts_or_examines (selector : Selector)
    (hvalid : String.Pos.Raw.IsValid text ⟨position⟩) :
    (turnAt text selector position = .exhausted ∧ Exhausts text selector position) ∨
      ∃ visit indices, turnAt text selector position = .visited visit indices ∧
        Examines text selector position visit indices := by
  have hcut := Text.bytesFrom?_eq_some_iff.mpr ⟨hvalid, rfl⟩
  cases hfind : Text.find? (Text.utf8 (probe selector)) ((Text.utf8 text).drop position) with
  | none =>
    have hturn : turnAt text selector position = .exhausted := by
      simp only [turnAt, hcut, hfind]
    exact Or.inl ⟨hturn, exhausts_of_find? hvalid hfind⟩
  | some count =>
    have hturn : turnAt text selector position = turnOn text selector (position + count) := by
      simp only [turnAt, hcut, hfind]
    have hexamines := examines_of_find? hvalid hfind
    exact Or.inr ⟨_, _, hturn.trans (turnOn_of_probeAt hexamines.probeAt), hexamines⟩

end Step

/-- The rounds from a boundary on, when all cuts succeed. -/
inductive Searches (text : String) (selector : Selector) (strategy : Strategy) :
    Nat → List Round → Prop
  /-- No probe is left, which ends the search. -/
  | exhausted {position : Nat} (h : Exhausts text selector position) :
      Searches text selector strategy position [⟨position, .exhausted⟩]
  /-- A probe decides, which ends the search. -/
  | decided {position : Nat} {visit : Visit} {indices : List Nat}
      (h : Examines text selector position visit indices)
      (hlast : visit.branches = true ∨ strategy = .firstOccurrence) :
      Searches text selector strategy position [⟨position, .visited visit indices⟩]
  /-- A probe does not decide, and the search goes on one byte behind its start. -/
  | continued {position : Nat} {visit : Visit} {indices : List Nat} {later : List Round}
      (h : Examines text selector position visit indices)
      (hmore : ¬(visit.branches = true ∨ strategy = .firstOccurrence))
      (hlater : Searches text selector strategy (visit.start + 1) later) :
      Searches text selector strategy position (⟨position, .visited visit indices⟩ :: later)

section Run

variable {text : String} {selector : Selector} {strategy : Strategy} {position : Nat}

/-- A turn without a next position is the last. -/
theorem rounds_of_next?_eq_none (h : (turnAt text selector position).next? strategy = none) :
    rounds text selector strategy position = [⟨position, turnAt text selector position⟩] := by
  rw [rounds, Option.attach_eq_none_iff.mpr h]

/-- Behind a turn stand the rounds from its next position on. -/
theorem rounds_of_next?_eq_some {next : Nat}
    (h : (turnAt text selector position).next? strategy = some next) :
    rounds text selector strategy position =
      ⟨position, turnAt text selector position⟩ :: rounds text selector strategy next := by
  have hattach : ((turnAt text selector position).next? strategy).attach = some ⟨next, h⟩ :=
    Option.attach_eq_some_iff.mpr h
  rw [rounds, hattach]

/-- In a search from a boundary all cuts succeed. -/
theorem searches_rounds (hvalid : String.Pos.Raw.IsValid text ⟨position⟩) :
    Searches text selector strategy position (rounds text selector strategy position) := by
  induction position using rounds.induct text selector strategy with
  | case1 position ih =>
    obtain ⟨hturn, hexhausts⟩ | ⟨visit, indices, hturn, hexamines⟩ :=
      exhausts_or_examines selector hvalid
    · rw [rounds_of_next?_eq_none (by rw [hturn]; rfl), hturn]
      exact .exhausted hexhausts
    · by_cases hlast : visit.branches = true ∨ strategy = .firstOccurrence
      · have hnext : (turnAt text selector position).next? strategy = none := by
          rw [hturn]
          exact if_pos hlast
        rw [rounds_of_next?_eq_none hnext, hturn]
        exact .decided hexamines hlast
      · have hnext : (turnAt text selector position).next? strategy = some (visit.start + 1) := by
          rw [hturn]
          exact if_neg hlast
        -- The first byte of a probe is a character, so the next round begins at a boundary too.
        have hbehind := hexamines.probeAt.isValid 0 (by omega)
        rw [rounds_of_next?_eq_some hnext, hturn]
        exact .continued hexamines hlast (ih (visit.start + 1) hnext hbehind)

end Run

/-- The probes that some rounds look at. -/
def visitsIn (rounds : List Round) : List Visit := rounds.filterMap fun round => round.turn.visit?

/-- The verdict of the last of some rounds. -/
def verdictOf? (rounds : List Round) : Option Bool :=
  rounds.getLast?.bind fun round => round.turn.verdict?

/-- A round that looks at a probe adds it to those of the later rounds. -/
theorem visitsIn_cons_visited {position : Nat} {visit : Visit} {indices : List Nat}
    {later : List Round} :
    visitsIn (⟨position, .visited visit indices⟩ :: later) = visit :: visitsIn later := rfl

/-- The verdict is left to the later rounds when there are any. -/
theorem verdictOf?_cons {round : Round} {later : List Round} (h : later ≠ []) :
    verdictOf? (round :: later) = verdictOf? later := by
  rw [verdictOf?, List.getLast?_cons_of_ne_nil h, verdictOf?]

/-- Nothing fails in a round. -/
structure Round.Safe (text : String) (round : Round) : Prop where
  /-- The round begins at a boundary of the text, so no later than at its end. -/
  boundary : String.Pos.Raw.IsValid text ⟨round.position⟩
  /-- The text is cut there. -/
  ne_lost : round.turn ≠ .lost
  /-- It is cut behind each probe. -/
  ne_torn : ∀ start, round.turn ≠ .torn start
  /-- A boundary of the text stands twelve bytes behind the start of a probe. -/
  boundary_behind : ∀ visit indices, round.turn = .visited visit indices →
    String.Pos.Raw.IsValid text ⟨visit.start + 12⟩
  /-- Both ends of each byte that is read have offsets that fit the smallest machine word. -/
  index_fits : ∀ visit indices, round.turn = .visited visit indices →
    ∀ index ∈ indices, 2 * index + 2 < UInt16.size

section Searches

variable {text : String} {selector : Selector} {strategy : Strategy} {position : Nat}
  {rounds : List Round}

/-- A round that finds no probe is safe. -/
theorem Exhausts.safe (h : Exhausts text selector position) :
    Round.Safe text ⟨position, .exhausted⟩ where
  boundary := h.boundary
  ne_lost := nofun
  ne_torn := nofun
  boundary_behind := nofun
  index_fits := nofun

/-- A round that looks at a probe is safe. -/
theorem Examines.safe {visit : Visit} {indices : List Nat}
    (h : Examines text selector position visit indices) :
    Round.Safe text ⟨position, .visited visit indices⟩ where
  boundary := h.boundary
  ne_lost := nofun
  ne_torn := nofun
  boundary_behind := by
    rintro _ _ ⟨⟩
    exact h.boundary_behind
  index_fits := by
    rintro _ _ ⟨⟩ index hindex
    have hle := h.index_le index hindex
    have hsize : UInt16.size = 65536 := rfl
    omega

/-- All rounds are safe. -/
theorem Searches.safe (h : Searches text selector strategy position rounds) :
    ∀ round ∈ rounds, round.Safe text := by
  induction h with
  | exhausted h => exact List.forall_mem_singleton.mpr h.safe
  | decided h _ => exact List.forall_mem_singleton.mpr h.safe
  | continued h _ _ ih => exact List.forall_mem_cons.mpr ⟨h.safe, ih⟩

/-- No round begins before the first. -/
theorem Searches.position_le (h : Searches text selector strategy position rounds) :
    ∀ round ∈ rounds, position ≤ round.position := by
  induction h with
  | exhausted _ => exact List.forall_mem_singleton.mpr (Nat.le_refl _)
  | decided _ _ => exact List.forall_mem_singleton.mpr (Nat.le_refl _)
  | continued h _ _ ih =>
    refine List.forall_mem_cons.mpr ⟨Nat.le_refl _, fun round hround => ?_⟩
    have hlater := ih round hround
    have hle := h.position_le
    omega

/-- Each round begins behind the positions of the earlier ones. -/
theorem Searches.pairwise (h : Searches text selector strategy position rounds) :
    rounds.Pairwise fun earlier later => earlier.position < later.position := by
  induction h with
  | exhausted _ => exact List.pairwise_singleton _ _
  | decided _ _ => exact List.pairwise_singleton _ _
  | continued h _ hlater ih =>
    refine List.pairwise_cons.mpr ⟨fun round hround => ?_, ih⟩
    have hnext := hlater.position_le round hround
    have hle := h.position_le
    dsimp only
    omega

/-- All rounds but the last look at a probe. -/
theorem Searches.length_le (h : Searches text selector strategy position rounds) :
    rounds.length ≤ (visitsIn rounds).length + 1 := by
  induction h with
  | exhausted _ => exact Nat.le_refl 1
  | decided _ _ => exact Nat.le_succ 1
  | continued _ _ _ ih => exact Nat.succ_le_succ ih

/-- From the position of a round on, the scan looks at the probe of the round next. -/
theorem Examines.visits_eq {visit : Visit} {indices : List Nat}
    (h : Examines text selector position visit indices) (strategy : Strategy) :
    visits (Text.utf8 (probe selector)) strategy position ((Text.utf8 text).drop position) =
      if visit.branches = true ∨ strategy = .firstOccurrence then [visit]
      else visit :: visits (Text.utf8 (probe selector)) strategy (visit.start + 1)
        ((Text.utf8 text).drop (visit.start + 1)) := by
  obtain ⟨start, follows⟩ := visit
  obtain ⟨count, rfl⟩ := Nat.exists_eq_add_of_le h.position_le
  -- The scan passes over the bytes in front of the probe, and then the probe stands at the front.
  have hnone : ∀ earlier < count,
      ¬ProbeAt (Text.utf8 (probe selector)) ((Text.utf8 text).drop position) earlier := by
    intro earlier hlt hearlier
    exact h.first (position + earlier) (by omega) (by dsimp only; omega)
      (probeAt_drop_iff.mp hearlier)
  have hprobe : ProbeAt (Text.utf8 (probe selector)) ((Text.utf8 text).drop (position + count)) 0 :=
    probeAt_drop_iff.mpr h.probeAt
  have hfollows : branches (((Text.utf8 text).drop (position + count)).drop 12) = follows := by
    rw [List.drop_drop]
    exact h.branches_eq.symm
  rw [visits_eq_of_not_probeAt count position hnone, List.drop_drop,
    visits_eq_of_probeAt (utf8_probe_ne_nil selector) hprobe, length_utf8_probe, hfollows,
    List.drop_drop]

/-- The rounds look at the probes that the scan looks at. -/
theorem Searches.visitsIn_eq (h : Searches text selector strategy position rounds) :
    visitsIn rounds = visits (Text.utf8 (probe selector)) strategy position
      ((Text.utf8 text).drop position) := by
  induction h with
  | exhausted h =>
    rw [visits_eq_nil fun start hstart =>
      h.not_probeAt _ (Nat.le_add_right _ _) (probeAt_drop_iff.mp hstart)]
    rfl
  | decided h hlast =>
    rw [h.visits_eq, if_pos hlast]
    rfl
  | continued h hmore _ ih =>
    rw [h.visits_eq, if_neg hmore, ← ih]
    rfl

/-- A search has a round. -/
theorem Searches.ne_nil (h : Searches text selector strategy position rounds) : rounds ≠ [] := by
  cases h <;> exact List.cons_ne_nil _ _

/-- A search answers, and it answers whether a branch follows some probe that was looked at. -/
theorem Searches.verdictOf?_eq (h : Searches text selector strategy position rounds) :
    verdictOf? rounds = some ((visitsIn rounds).any Visit.branches) := by
  induction h with
  | exhausted _ => rfl
  | decided _ _ =>
    rw [visitsIn_cons_visited, List.any_cons]
    exact congrArg some (Bool.or_false _).symm
  | continued _ hmore hlater ih =>
    have hbranches := Bool.eq_false_iff.mpr (not_or.mp hmore).1
    rw [verdictOf?_cons hlater.ne_nil, ih, visitsIn_cons_visited, List.any_cons, hbranches,
      Bool.false_or]

end Searches

/-- In a search of a text each round cuts at boundaries and never fails, and each begins behind the
earlier ones; there is one round more than probes at most. The search looks at the probes that the
scan looks at, and answers as the scan does. When every occurrence is examined, these are the first
probes of the text, without a gap, up to the first that a branch follows. -/
theorem search_examines_first_probes (text : String) (selector : Selector) (strategy : Strategy) :
    (∀ round ∈ search text selector strategy, round.Safe text) ∧
    (search text selector strategy).Pairwise
      (fun earlier later => earlier.position < later.position) ∧
    (search text selector strategy).length
      ≤ (offsets (Text.utf8 (probe selector)) (Text.utf8 text)).length + 1 ∧
    visitsIn (search text selector strategy) = visitsOf text selector strategy ∧
    verdictOf? (search text selector strategy) = some (occurs text selector strategy) ∧
    (visitsIn (search text selector .allOccurrences)).map Visit.start
      = offsetsToCheck (Text.utf8 (probe selector)) (Text.utf8 text) := by
  have hsearches : ∀ strategy, Searches text selector strategy 0 (search text selector strategy) :=
    fun strategy => searches_rounds String.Pos.Raw.isValid_zero
  have hvisits : ∀ strategy,
      visitsIn (search text selector strategy) = visitsOf text selector strategy :=
    fun strategy => (hsearches strategy).visitsIn_eq
  refine ⟨(hsearches strategy).safe, (hsearches strategy).pairwise, ?_, hvisits strategy, ?_, ?_⟩
  · have hlength := (hsearches strategy).length_le
    have hle := length_visits_le (Text.utf8 (probe selector)) strategy 0 (Text.utf8 text)
    rw [hvisits strategy, visitsOf] at hlength
    omega
  · rw [(hsearches strategy).verdictOf?_eq, hvisits strategy, occurs]
  · rw [hvisits .allOccurrences, visitsOf, map_start_visits]
    simp only [Nat.zero_add, List.map_id']

/-- Overlapping probes are all looked at, behind a longer character too. -/
example : visitsIn (search "é6314631463146314" ⟨0x14, 0x63, 0x14, 0x63⟩ .allOccurrences)
    = [⟨2, false⟩, ⟨6, false⟩] := by
  decide +kernel

end DispatchScan.Dispatch
