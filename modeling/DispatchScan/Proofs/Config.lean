import DispatchScan.Config
import DispatchScan.Proofs.Json.Members

/-!
# Configurations from texts

What the text of a configuration says is told by the members of its object, and of the object at
`rpc`: which fields are given, and what their values give. Main statement: the fields given are
read, each of the others has its default, and neither the order of the members nor members at other
keys matter; a field that occurs twice is refused. The written text of a configuration gives all
fields.
-/

namespace DispatchScan

open Json Json.Reader

/-! ## Texts that give fields -/

/-- A text that holds one object with the given members, and space around it. -/
def IsDocument (members : List (String × List Char)) (text : String) : Prop :=
  ∃ before cs after, IsGap before ∧ IsGap after ∧ IsObjectOf members cs ∧
    text.toList = before ++ (cs ++ after)

namespace NodeSettings

/-- The keys of the settings. -/
def keys : List String := fields.map Json.Field.key

/-- Which of the settings a text gives. -/
structure Given where
  /-- The address of the node, if it is given. -/
  endpoint : Option String
  /-- The seconds to wait, if they are given. -/
  timeoutSeconds : Option UInt64
  /-- The state to ask for, if it is given. -/
  blockTag : Option String

namespace Given

/-- The settings given, and the others as they are. -/
def applyTo (g : Given) (s : NodeSettings) : NodeSettings :=
  ⟨g.endpoint.getD s.endpoint, g.timeoutSeconds.getD s.timeoutSeconds, g.blockTag.getD s.blockTag⟩

/-- The members of an object give each of the settings at most once, and hold any values at other
keys. -/
structure IsIn (g : Given) (members : List (String × List Char)) : Prop where
  /-- The address, in any spelling. -/
  endpoint : HoldsAt "endpoint" IsStringOf members g.endpoint
  /-- The digits of the seconds. -/
  timeoutSeconds :
    HoldsAt "timeout_secs" (fun n cs => cs = Nat.toDigits 10 n.toNat) members g.timeoutSeconds
  /-- The state, in any spelling. -/
  blockTag : HoldsAt "block_tag" IsStringOf members g.blockTag
  /-- Values that are passed over. -/
  others : ∀ m ∈ members, m.1 ∉ keys → IsValue m.2

/-- The elements of an array give the first settings in their order. -/
inductive IsLed : Given → List (List Char) → Prop where
  /-- None of them. -/
  | none : IsLed ⟨.none, .none, .none⟩ []
  /-- The address. -/
  | endpoint {endpoint : String} {cs : List Char} (hcs : IsStringOf endpoint cs) :
    IsLed ⟨some endpoint, .none, .none⟩ [cs]
  /-- The address and the seconds. -/
  | timeoutSeconds {endpoint : String} {n : UInt64} {cs : List Char}
    (hcs : IsStringOf endpoint cs) :
    IsLed ⟨some endpoint, some n, .none⟩ [cs, Nat.toDigits 10 n.toNat]
  /-- All of them. -/
  | blockTag {endpoint blockTag : String} {n : UInt64} {cs ds : List Char}
    (hcs : IsStringOf endpoint cs) (hds : IsStringOf blockTag ds) :
    IsLed ⟨some endpoint, some n, some blockTag⟩ [cs, Nat.toDigits 10 n.toNat, ds]

/-- A value gives settings as an object or as an array. -/
inductive IsText (g : Given) (cs : List Char) : Prop where
  /-- By the members of an object. -/
  | object {members : List (String × List Char)} (hobject : IsObjectOf members cs)
    (hmembers : g.IsIn members)
  /-- By the elements of an array. -/
  | array {values : List (List Char)} (harray : IsArrayOf values cs) (hvalues : g.IsLed values)

end Given

end NodeSettings

namespace Config

/-- The keys of a configuration. -/
def keys : List String := fields.map Json.Field.key

/-- Which fields of a configuration a text gives. -/
structure Given where
  /-- The strategy, if it is given. -/
  scan : Option Strategy
  /-- What is given about the node, if anything is. -/
  node : Option NodeSettings.Given

namespace Given

/-- The fields given, and the others as they are. The settings of a node that are not given have
their defaults as soon as others are. -/
def applyTo (g : Given) (c : Config) : Config :=
  ⟨g.scan.getD c.scan, (g.node.map fun n => n.applyTo .default).getD c.node⟩

/-- The fields given, and the defaults of the others. -/
def withDefaults (g : Given) : Config := g.applyTo .default

/-- The members of an object give each field at most once, and hold any values at other keys. -/
structure IsIn (g : Given) (members : List (String × List Char)) : Prop where
  /-- The name of the strategy. -/
  scan : HoldsAt "scan" (fun s cs => IsNameOf s.name cs) members g.scan
  /-- The settings of the node. -/
  node : HoldsAt "rpc" NodeSettings.Given.IsText members g.node
  /-- Values that are passed over. -/
  others : ∀ m ∈ members, m.1 ∉ keys → IsValue m.2

end Given

/-- Members that say the same: they may be rearranged, and so may the members of an object that
gives the settings of the node. -/
inductive Rearranged : List (String × List Char) → List (String × List Char) → Prop where
  /-- The members of the outer object are rearranged. -/
  | outer {members others : List (String × List Char)} (h : Json.Rearranged keys members others) :
    Rearranged members others
  /-- The members of the inner object are rearranged. -/
  | inner {g : NodeSettings.Given} {inner inner' members : List (String × List Char)}
    {cs cs' : List Char} (hcs : IsObjectOf inner cs) (hgiven : g.IsIn inner)
    (h : Json.Rearranged NodeSettings.keys inner inner') (hcs' : IsObjectOf inner' cs') :
    Rearranged (("rpc", cs) :: members) (("rpc", cs') :: members)
  /-- One change follows the other. -/
  | trans {members others more : List (String × List Char)} (hfirst : Rearranged members others)
    (hnext : Rearranged others more) : Rearranged members more

/-- A field occurs twice in the outer object or in an object that stands at `rpc`. -/
def RepeatsField (members : List (String × List Char)) : Prop :=
  (∃ key ∈ keys, 1 < (valuesAt key members).length) ∨
    ∃ cs inner, ("rpc", cs) ∈ members ∧ IsObjectOf inner cs ∧ (∀ m ∈ inner, IsValue m.2) ∧
      ∃ key ∈ NodeSettings.keys, 1 < (valuesAt key inner).length

end Config

/-! ## Settings of a node -/

namespace NodeSettings

/-- The readers of the settings take values as a whole. -/
theorem takesFieldsWhole : TakesFieldsWhole fields := by
  intro field hfield s
  simp only [fields, List.mem_cons, List.not_mem_nil, or_false] at hfield
  rcases hfield with rfl | rfl | rfl
  · exact takesWhole_text.map fun endpoint => { s with endpoint }
  · exact takesWhole_natural.map fun n => { s with timeoutSeconds := UInt64.ofNat n }
  · exact takesWhole_text.map fun blockTag => { s with blockTag }

/-- The address is read in any spelling. -/
theorem readsAs_endpoint {endpoint : String} {cs : List Char} (h : IsStringOf endpoint cs)
    (s : NodeSettings) :
    ReadsAs (do return { s with endpoint := ← Reader.text }) cs { s with endpoint } :=
  (readsAs_text h).map fun endpoint => { s with endpoint }

/-- All seconds of 64 bits are read. -/
theorem readsAs_timeoutSeconds (n : UInt64) (s : NodeSettings) :
    ReadsAs (do return { s with timeoutSeconds := UInt64.ofNat (← Reader.natural) })
      (Nat.toDigits 10 n.toNat) { s with timeoutSeconds := n } := by
  have hread := (readsAs_natural (Nat.le_pred_of_lt n.toNat_lt)).map
    fun n => { s with timeoutSeconds := UInt64.ofNat n }
  rw [UInt64.ofNat_toNat] at hread
  exact hread

/-- The state is read in any spelling. -/
theorem readsAs_blockTag {blockTag : String} {cs : List Char} (h : IsStringOf blockTag cs)
    (s : NodeSettings) :
    ReadsAs (do return { s with blockTag := ← Reader.text }) cs { s with blockTag } :=
  (readsAs_text h).map fun blockTag => { s with blockTag }

namespace Given

variable {g : Given} {members others : List (String × List Char)}

/-- Rearranged members give the same settings. -/
theorem IsIn.rearranged (h : g.IsIn members) (hsame : Json.Rearranged keys members others) :
    g.IsIn others :=
  ⟨hsame.holdsAt (by decide) h.endpoint, hsame.holdsAt (by decide) h.timeoutSeconds,
    hsame.holdsAt (by decide) h.blockTag, hsame.forall_isValue h.others⟩

/-- All members that give settings hold values. -/
theorem IsIn.forall_isValue (h : g.IsIn members) : ∀ m ∈ members, IsValue m.2 := by
  rintro ⟨key, value⟩ hm
  by_cases hkey : key ∈ keys
  · simp only [keys, fields, List.map_cons, List.map_nil, List.mem_cons, List.not_mem_nil,
      or_false] at hkey
    rcases hkey with rfl | rfl | rfl
    · obtain ⟨_, -, hvalue⟩ := h.endpoint.exists_of_mem hm
      exact isValue_of_isStringOf hvalue
    · obtain ⟨n, -, rfl⟩ := h.timeoutSeconds.exists_of_mem hm
      exact isValue_toDigits n.toNat
    · obtain ⟨_, -, hvalue⟩ := h.blockTag.exists_of_mem hm
      exact isValue_of_isStringOf hvalue
  · exact h.others _ hm hkey

/-- A member at the key of a setting is read, and the members behind it give the other settings. -/
theorem IsIn.of_known {key : String} {value : List Char} (h : g.IsIn ((key, value) :: members))
    {field : Json.Field NodeSettings} (hfield : field? fields key = some field) (s : NodeSettings) :
    valuesAt key members = [] ∧ ∃ (left : Given) (s₁ : NodeSettings),
      ReadsAs (field.read s) value s₁ ∧ left.IsIn members ∧ left.applyTo s₁ = g.applyTo s := by
  have hothers := (List.forall_mem_cons.mp h.others).2
  obtain ⟨hmem, rfl⟩ := mem_and_key_of_field? hfield
  simp only [fields, List.mem_cons, List.not_mem_nil, or_false] at hmem
  rcases hmem with rfl | rfl | rfl
  · obtain ⟨endpoint, heq, hvalue, hnone⟩ := h.endpoint.cons_self
    refine ⟨hnone, { g with endpoint := none }, { s with endpoint }, readsAs_endpoint hvalue s,
      ⟨hnone, ?_, ?_, hothers⟩, ?_⟩
    · exact (holdsAt_cons_of_ne (by decide)).mp h.timeoutSeconds
    · exact (holdsAt_cons_of_ne (by decide)).mp h.blockTag
    · rw [applyTo, applyTo, heq]
      rfl
  · obtain ⟨n, heq, rfl, hnone⟩ := h.timeoutSeconds.cons_self
    refine ⟨hnone, { g with timeoutSeconds := none }, { s with timeoutSeconds := n },
      readsAs_timeoutSeconds n s, ⟨?_, hnone, ?_, hothers⟩, ?_⟩
    · exact (holdsAt_cons_of_ne (by decide)).mp h.endpoint
    · exact (holdsAt_cons_of_ne (by decide)).mp h.blockTag
    · rw [applyTo, applyTo, heq]
      rfl
  · obtain ⟨blockTag, heq, hvalue, hnone⟩ := h.blockTag.cons_self
    refine ⟨hnone, { g with blockTag := none }, { s with blockTag }, readsAs_blockTag hvalue s,
      ⟨?_, ?_, hnone, hothers⟩, ?_⟩
    · exact (holdsAt_cons_of_ne (by decide)).mp h.endpoint
    · exact (holdsAt_cons_of_ne (by decide)).mp h.timeoutSeconds
    · rw [applyTo, applyTo, heq]
      rfl

/-- Without members no setting is given. -/
theorem IsIn.applyTo_nil (h : g.IsIn []) (s : NodeSettings) : g.applyTo s = s := by
  rw [applyTo, h.endpoint.eq_none, h.timeoutSeconds.eq_none, h.blockTag.eq_none]
  rfl

/-- Members are updates to the settings that they give. -/
theorem IsIn.updates (h : g.IsIn members) (s : NodeSettings) :
    Updates ReadsAs fields [] s members (g.applyTo s) :=
  updates_of_given IsIn (fun _ s h => h.applyTo_nil s)
    (fun _ _ _ _ h hnone => h.rearranged (.remove (field?_eq_none_iff.mp hnone)))
    (fun _ _ _ _ _ s h hfield => h.of_known hfield s) h s nofun

/-- Elements lead to the settings that they give. -/
theorem IsLed.leads {values : List (List Char)} (h : g.IsLed values) (s : NodeSettings) :
    Leads ReadsAs fields s values (g.applyTo s) := by
  have hall : ∀ field ∈ fields, field.optional = true := by simp [fields]
  have hleft : ∀ n, ∀ field ∈ fields.drop n, field.optional = true :=
    fun n field hfield => hall field (List.mem_of_mem_drop hfield)
  cases h with
  | none => exact .done hall s
  | endpoint hcs => exact .next (readsAs_endpoint hcs s) (.done (hleft 1) _)
  | timeoutSeconds hcs =>
    exact .next (readsAs_endpoint hcs s) (.next (readsAs_timeoutSeconds _ _) (.done (hleft 2) _))
  | blockTag hcs hds =>
    refine .next (readsAs_endpoint hcs s) (.next (readsAs_timeoutSeconds _ _) ?_)
    exact .next (readsAs_blockTag hds _) (.done (hleft 3) _)

/-- All elements that give settings are values. -/
theorem IsLed.forall_isValue {values : List (List Char)} (h : g.IsLed values) :
    ∀ value ∈ values, IsValue value := by
  cases h with
  | none => exact nofun
  | endpoint hcs => exact List.forall_mem_singleton.mpr (isValue_of_isStringOf hcs)
  | timeoutSeconds hcs =>
    exact List.forall_mem_cons.mpr ⟨isValue_of_isStringOf hcs,
      List.forall_mem_singleton.mpr (isValue_toDigits _)⟩
  | blockTag hcs hds =>
    exact List.forall_mem_cons.mpr ⟨isValue_of_isStringOf hcs, List.forall_mem_cons.mpr
      ⟨isValue_toDigits _, List.forall_mem_singleton.mpr (isValue_of_isStringOf hds)⟩⟩

variable {cs : List Char}

/-- What gives settings is a value. -/
theorem IsText.isValue (h : g.IsText cs) : IsValue cs := by
  cases h with
  | object hobject hmembers => exact isValue_of_isObjectOf hobject hmembers.forall_isValue
  | array harray hvalues => exact isValue_of_isArrayOf harray hvalues.forall_isValue

/-- The settings given are read, and the others have their defaults. -/
theorem IsText.readsAs (h : g.IsText cs) : ReadsAs reader cs (g.applyTo .default) := by
  cases h with
  | object hobject hmembers =>
    exact readsAs_record_object hobject hmembers.forall_isValue (hmembers.updates .default)
  | array harray hvalues =>
    exact readsAs_record_array harray hvalues.forall_isValue (hvalues.leads .default)

end Given

end NodeSettings

/-! ## Configurations -/

namespace Config

/-- The readers of the fields take values as a whole. -/
theorem takesFieldsWhole : TakesFieldsWhole fields := by
  intro field hfield c
  simp only [fields, List.mem_cons, List.not_mem_nil, or_false] at hfield
  rcases hfield with rfl | rfl
  · exact (takesWhole_choice Strategy.names).map fun scan => { c with scan }
  · exact (takesWhole_record NodeSettings.takesFieldsWhole .default).map fun node => { c with node }

/-- A strategy is read by its name. -/
theorem readsAs_scan {scan : Strategy} {cs : List Char} (h : IsNameOf scan.name cs) (c : Config) :
    ReadsAs (do return { c with scan := ← Strategy.reader }) cs { c with scan } := by
  have hlookup : Strategy.names.lookup scan.name = some scan := by cases scan <;> decide
  exact (readsAs_choice hlookup h).map fun scan => { c with scan }

/-- The settings of the node are read. -/
theorem readsAs_node {n : NodeSettings.Given} {cs : List Char} (h : n.IsText cs) (c : Config) :
    ReadsAs (do return { c with node := ← NodeSettings.reader }) cs
      { c with node := n.applyTo .default } :=
  h.readsAs.map fun node => { c with node }

namespace Given

variable {g : Given} {members others : List (String × List Char)}

/-- Rearranged members give the same fields. -/
theorem IsIn.rearranged (h : g.IsIn members) (hsame : Json.Rearranged keys members others) :
    g.IsIn others :=
  ⟨hsame.holdsAt (by decide) h.scan, hsame.holdsAt (by decide) h.node,
    hsame.forall_isValue h.others⟩

/-- All members that give fields hold values. -/
theorem IsIn.forall_isValue (h : g.IsIn members) : ∀ m ∈ members, IsValue m.2 := by
  rintro ⟨key, value⟩ hm
  by_cases hkey : key ∈ keys
  · simp only [keys, fields, List.map_cons, List.map_nil, List.mem_cons, List.not_mem_nil,
      or_false] at hkey
    rcases hkey with rfl | rfl
    · obtain ⟨_, -, hvalue⟩ := h.scan.exists_of_mem hm
      exact isValue_of_isNameOf hvalue
    · obtain ⟨_, -, hvalue⟩ := h.node.exists_of_mem hm
      exact hvalue.isValue
  · exact h.others _ hm hkey

/-- A member at the key of a field is read, and the members behind it give the other field. -/
theorem IsIn.of_known {key : String} {value : List Char} (h : g.IsIn ((key, value) :: members))
    {field : Json.Field Config} (hfield : field? fields key = some field) (c : Config) :
    valuesAt key members = [] ∧ ∃ (left : Given) (c₁ : Config),
      ReadsAs (field.read c) value c₁ ∧ left.IsIn members ∧ left.applyTo c₁ = g.applyTo c := by
  have hothers := (List.forall_mem_cons.mp h.others).2
  obtain ⟨hmem, rfl⟩ := mem_and_key_of_field? hfield
  simp only [fields, List.mem_cons, List.not_mem_nil, or_false] at hmem
  rcases hmem with rfl | rfl
  · obtain ⟨scan, heq, hvalue, hnone⟩ := h.scan.cons_self
    refine ⟨hnone, { g with scan := none }, { c with scan }, readsAs_scan hvalue c,
      ⟨hnone, ?_, hothers⟩, ?_⟩
    · exact (holdsAt_cons_of_ne (by decide)).mp h.node
    · rw [applyTo, applyTo, heq]
      rfl
  · obtain ⟨n, heq, hvalue, hnone⟩ := h.node.cons_self
    refine ⟨hnone, { g with node := none }, { c with node := n.applyTo .default },
      readsAs_node hvalue c, ⟨?_, hnone, hothers⟩, ?_⟩
    · exact (holdsAt_cons_of_ne (by decide)).mp h.scan
    · rw [applyTo, applyTo, heq]
      rfl

/-- Without members no field is given. -/
theorem IsIn.applyTo_nil (h : g.IsIn []) (c : Config) : g.applyTo c = c := by
  rw [applyTo, h.scan.eq_none, h.node.eq_none]
  rfl

/-- Members are updates to the fields that they give. -/
theorem IsIn.updates (h : g.IsIn members) (c : Config) :
    Updates ReadsAs fields [] c members (g.applyTo c) :=
  updates_of_given IsIn (fun _ c h => h.applyTo_nil c)
    (fun _ _ _ _ h hnone => h.rearranged (.remove (field?_eq_none_iff.mp hnone)))
    (fun _ _ _ _ _ c h hfield => h.of_known hfield c) h c nofun

/-- Another way to give the same fields. -/
theorem IsIn.exists_of_rearranged (h : g.IsIn members) (hsame : Rearranged members others) :
    ∃ g' : Given, g'.IsIn others ∧ g'.withDefaults = g.withDefaults := by
  induction hsame generalizing g with
  | outer houter => exact ⟨g, h.rearranged houter, rfl⟩
  | inner hcs hgiven hinner hcs' =>
    rename_i n inner inner' members cs cs'
    obtain ⟨n₀, heq, htext, hnone⟩ := h.node.cons_self
    have hread := (NodeSettings.Given.IsText.object hcs hgiven).readsAs
    -- Both ways to see the value at the key give what is read for it.
    have happly : n₀.applyTo .default = n.applyTo .default :=
      ((htext.readsAs [] [] isGap_nil nofun).unique (hread [] [] isGap_nil nofun)).1
    refine ⟨{ g with node := some n }, ⟨?_, ?_, ?_⟩, ?_⟩
    · exact (holdsAt_cons_of_ne (by decide)).mpr ((holdsAt_cons_of_ne (by decide)).mp h.scan)
    · refine ⟨cs', ?_, .object hcs' (hgiven.rearranged hinner)⟩
      rw [valuesAt_cons_self, hnone]
    · exact List.forall_mem_cons.mpr
        ⟨fun hother => absurd (show "rpc" ∈ keys by decide) hother,
          (List.forall_mem_cons.mp h.others).2⟩
    · rw [withDefaults, withDefaults, applyTo, applyTo, heq, Option.map_some,
        Option.map_some, happly]
  | trans _ _ ihfirst ihnext =>
    obtain ⟨middle, hmiddle, hfirst⟩ := ihfirst h
    obtain ⟨last, hlast, hnext⟩ := ihnext hmiddle
    exact ⟨last, hlast, hnext.trans hfirst⟩

end Given

/-! ## Whole texts -/

/-- The bytes of a text that holds one value. -/
theorem utf8_eq {text : String} {before cs after : List Char}
    (htext : text.toList = before ++ (cs ++ after)) :
    Text.utf8 text = spell before ++ (spell cs ++ spell after) := by
  rw [Text.utf8, htext, ← spell_append, ← spell_append, spell]

/-- The fields that a document gives are read. -/
theorem ofText_eq_ok {members : List (String × List Char)} {text : String} {g : Given}
    (hdocument : IsDocument members text) (hgiven : g.IsIn members) :
    ofText text = .ok g.withDefaults := by
  obtain ⟨before, cs, after, hbefore, hafter, hobject, htext⟩ := hdocument
  have hvalue : ReadsAs reader cs g.withDefaults :=
    readsAs_record_object hobject hgiven.forall_isValue (hgiven.updates .default)
  have hend : EndsNumber (spell after) := by
    rw [← List.append_nil (spell after)]
    exact endsNumber_gap hafter nofun
  have hreads : Reads (do let c ← reader; finish; pure c) (Text.utf8 text) g.withDefaults [] := by
    rw [utf8_eq htext]
    exact (hvalue _ _ hbefore hend).bind ((reads_finish_gap hafter).bind (reads_pure _ []))
  have hparse : parse text = .ok g.withDefaults := by rw [parse, run, hreads]
  rw [ofText, hparse]
  rfl

/-- A text off which no configuration can be read is malformed. -/
theorem exists_ofText_eq_error {text : String}
    (h : ∀ c left, ¬Reads reader (Text.utf8 text) c left) :
    ∃ fault, ofText text = .error (.malformed fault) := by
  cases hparse : parse text with
  | error fault =>
    refine ⟨fault, ?_⟩
    rw [ofText, hparse]
    rfl
  | ok c =>
    rw [parse, run] at hparse
    split at hparse
    next hreads =>
      obtain ⟨c, left, hreads, -⟩ := Reads.exists_of_bind hreads
      exact absurd hreads (h c left)
    next => cases hparse

/-- No configuration can be read off a document in which a field occurs twice. -/
theorem not_reads_of_repeatsField {members : List (String × List Char)} {text : String}
    (hdocument : IsDocument members text) (hvalues : ∀ m ∈ members, IsValue m.2)
    (hrepeats : RepeatsField members) (c : Config) (left : List UInt8) :
    ¬Reads reader (Text.utf8 text) c left := by
  obtain ⟨before, cs, after, hbefore, hafter, ⟨ms, hobject, hgives⟩, htext⟩ := hdocument
  obtain ⟨hkeys, htexts⟩ := forall_of_gives hgives hvalues
  intro hread
  rw [utf8_eq htext] at hread
  obtain ⟨-, hupdates⟩ :=
    updates_of_reads_record takesFieldsWhole hobject hkeys htexts hbefore hread
  rcases hrepeats with ⟨key, hkey, hlt⟩ | ⟨ds, inner, hmem, ⟨ns, hobject', hgives'⟩, hinner, key,
    hkey, hlt⟩
  · exact absurd ((hupdates members hgives).length_valuesAt_le_one hkey) (Nat.not_le_of_lt hlt)
  · obtain ⟨hkeys', htexts'⟩ := forall_of_gives hgives' hinner
    obtain ⟨c₀, c₁, gap, rest, left, hgap, -, hread⟩ :=
      (hupdates members hgives).exists_of_mem hmem
        (show field? fields "rpc" = some fields[1] from rfl)
    obtain ⟨n, _, hread, -⟩ := Reads.exists_of_bind hread
    obtain ⟨-, hupdates'⟩ := updates_of_reads_record NodeSettings.takesFieldsWhole hobject' hkeys'
      htexts' hgap hread
    exact absurd ((hupdates' inner hgives').length_valuesAt_le_one hkey) (Nat.not_le_of_lt hlt)

/-! ## Written texts -/

/-- The written settings of a node give all of them. -/
theorem isText_toJson (s : NodeSettings) :
    NodeSettings.Given.IsText ⟨some s.endpoint, some s.timeoutSeconds, some s.blockTag⟩
      s.toJson.tokens := by
  refine .object (isObjectOf_tokens _) ⟨?_, ?_, ?_, ?_⟩
  · exact ⟨stringToken s.endpoint, rfl, isStringOf_stringToken s.endpoint⟩
  · exact ⟨Nat.toDigits 10 s.timeoutSeconds.toNat, rfl, rfl⟩
  · exact ⟨stringToken s.blockTag, rfl, isStringOf_stringToken s.blockTag⟩
  · simp [NodeSettings.keys, NodeSettings.fields]

/-- The written text of a configuration is a document. -/
theorem isDocument_render (c : Config) :
    IsDocument [("scan", stringToken c.scan.name), ("rpc", c.node.toJson.tokens)] c.render := by
  refine ⟨[], c.toJson.tokens, [], isGap_nil, isGap_nil, isObjectOf_tokens _, ?_⟩
  rw [render, Value.render, String.toList_ofList, List.nil_append, List.append_nil]

/-- A written configuration is read back. -/
theorem ofText_render (c : Config) : ofText c.render = .ok c := by
  have hgiven : Given.IsIn
      ⟨some c.scan, some ⟨some c.node.endpoint, some c.node.timeoutSeconds, some c.node.blockTag⟩⟩
      [("scan", stringToken c.scan.name), ("rpc", c.node.toJson.tokens)] := by
    refine ⟨?_, ?_, ?_⟩
    · exact ⟨stringToken c.scan.name, rfl, Or.inl (isStringOf_stringToken c.scan.name)⟩
    · exact ⟨c.node.toJson.tokens, rfl, isText_toJson c.node⟩
    · simp [keys, fields]
  exact ofText_eq_ok (isDocument_render c) hgiven

/-- A document whose members give each field at most once, with any values at other keys, is read as
the fields that it gives and the defaults of the others. The order of the members and the members at
other keys do not matter, neither in the outer object nor in the one of the node. A field that
occurs twice makes the document malformed. The written text of each configuration is read as this
one. -/
theorem ofText_reads_fields :
    (∀ (g : Given) (members : List (String × List Char)) (text : String),
      IsDocument members text → g.IsIn members → ofText text = .ok g.withDefaults) ∧
    (∀ (g : Given) (members others : List (String × List Char)) (text other : String),
      IsDocument members text → IsDocument others other → g.IsIn members →
        Rearranged members others → ofText other = ofText text) ∧
    (∀ (members : List (String × List Char)) (text : String), IsDocument members text →
      (∀ m ∈ members, IsValue m.2) → RepeatsField members →
        ∃ fault, ofText text = .error (.malformed fault)) ∧
    ∀ c : Config, ofText c.render = .ok c := by
  refine ⟨fun g members text => ofText_eq_ok, ?_, ?_, ofText_render⟩
  · intro g members others text other hdocument hother hgiven hsame
    obtain ⟨g', hgiven', hequal⟩ := hgiven.exists_of_rearranged hsame
    rw [ofText_eq_ok hdocument hgiven, ofText_eq_ok hother hgiven', hequal]
  · intro members text hdocument hvalues hrepeats
    exact exists_ofText_eq_error (not_reads_of_repeatsField hdocument hvalues hrepeats)

end Config

end DispatchScan
