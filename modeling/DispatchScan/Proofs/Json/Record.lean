import DispatchScan.Proofs.Json.Typed
import Mathlib.Data.List.Nodup

/-!
# Reading records

A record is read from an object by one update for each member in turn, and from an array by one
update for each element. Main statements: where such updates exist, the record is read, and what
follows is left; and where a record is read from an object of values, there are updates for all of
its members, so that no field occurs twice and each field could be read from its value.
-/

namespace DispatchScan.Json.Reader

variable {σ : Type}

/-- The field of a key. -/
def field? (fields : List (Field σ)) (key : String) : Option (Field σ) :=
  fields.find? fun field => field.key == key

/-- A value is read as `x` somewhere. -/
def CanRead (reader : Reader σ) (value : List Char) (x : σ) : Prop :=
  ∃ gap rest left, IsGap gap ∧ EndsNumber rest ∧
    Reads reader (spell gap ++ (spell value ++ rest)) x left

/-- A key without field is none of the keys of the fields. -/
theorem field?_eq_none_iff {fields : List (Field σ)} {key : String} :
    field? fields key = none ↔ key ∉ fields.map Field.key := by
  rw [field?, List.find?_eq_none, List.mem_map, not_exists]
  refine forall_congr' fun field => ?_
  rw [beq_iff_eq, not_and]

/-- The field of a key is one of the fields and has this key. -/
theorem mem_and_key_of_field? {fields : List (Field σ)} {key : String} {field : Field σ}
    (h : field? fields key = some field) : field ∈ fields ∧ field.key = key := by
  have hkey := List.find?_some h
  exact ⟨List.mem_of_find?_eq_some h, beq_iff_eq.mp hkey⟩

/-! ## Updates -/

/-- What one member does to the fields seen and to the state, for any way to accept the value of a
field. -/
inductive Update (accepts : Reader σ → List Char → σ → Prop) (fields : List (Field σ))
    (seen : List String) (s : σ) : String × List Char → List String → σ → Prop where
  /-- An unknown key does nothing. -/
  | unknown {key : String} {value : List Char} (hfield : field? fields key = none) :
    Update accepts fields seen s (key, value) seen s
  /-- The value of a field is read into the state; the field must be new. -/
  | known {key : String} {value : List Char} {field : Field σ} {s₁ : σ}
    (hfield : field? fields key = some field) (hseen : key ∉ seen)
    (hread : accepts (field.read s) value s₁) :
    Update accepts fields seen s (key, value) (key :: seen) s₁

/-- What the members of an object do one after the other. -/
inductive Updates (accepts : Reader σ → List Char → σ → Prop) (fields : List (Field σ)) :
    List String → σ → List (String × List Char) → σ → Prop where
  /-- Without members nothing is done. -/
  | nil (seen : List String) (s : σ) : Updates accepts fields seen s [] s
  /-- The first member is followed by the others. -/
  | cons {seen seen₁ : List String} {s s₁ s' : σ} {member : String × List Char}
    {members : List (String × List Char)} (hfirst : Update accepts fields seen s member seen₁ s₁)
    (hrest : Updates accepts fields seen₁ s₁ members s') :
    Updates accepts fields seen s (member :: members) s'

/-- What the elements of an array do one after the other to the fields in their order. -/
inductive Leads (accepts : Reader σ → List Char → σ → Prop) :
    List (Field σ) → σ → List (List Char) → σ → Prop where
  /-- The array may end if all fields that are left are optional. -/
  | done {left : List (Field σ)} (hleft : ∀ field ∈ left, field.optional = true) (s : σ) :
    Leads accepts left s [] s
  /-- The first element is the value of the first field. -/
  | next {field : Field σ} {left : List (Field σ)} {s s₁ s' : σ} {value : List Char}
    {values : List (List Char)} (hread : accepts (field.read s) value s₁)
    (hrest : Leads accepts left s₁ values s') : Leads accepts (field :: left) s (value :: values) s'

variable {accepts : Reader σ → List Char → σ → Prop} {fields : List (Field σ)} {wanted : String}

/-- The fields that were seen do not occur again, and none occurs twice. -/
theorem Updates.nodup {seen : List String} {s s' : σ} {members : List (String × List Char)}
    (h : Updates accepts fields seen s members s') (hseen : seen.Nodup) :
    (seen ++ (members.map Prod.fst).filter fun key => (field? fields key).isSome).Nodup := by
  induction h with
  | nil seen s =>
    rw [List.map_nil, List.filter_nil, List.append_nil]
    exact hseen
  | cons hfirst _ ih =>
    cases hfirst with
    | unknown hfield =>
      rw [List.map_cons, List.filter_cons_of_neg (by rw [hfield]; exact Bool.false_ne_true)]
      exact ih hseen
    | known hfield hnew _ =>
      rw [List.map_cons, List.filter_cons_of_pos (by rw [hfield]; rfl), List.nodup_middle]
      exact ih (List.nodup_cons.mpr ⟨hnew, hseen⟩)

/-- The value of each field was accepted. -/
theorem Updates.exists_of_mem {seen : List String} {s s' : σ} {members : List (String × List Char)}
    (h : Updates accepts fields seen s members s') {key : String} {value : List Char}
    (hmem : (key, value) ∈ members) {field : Field σ} (hfield : field? fields key = some field) :
    ∃ s₀ s₁, accepts (field.read s₀) value s₁ := by
  induction h with
  | nil => cases hmem
  | cons hfirst _ ih =>
    rcases List.mem_cons.mp hmem with rfl | hmem
    · cases hfirst with
      | unknown hnone =>
        rw [hnone] at hfield
        cases hfield
      | known hsome _ hread =>
        obtain rfl := Option.some.inj (hsome.symm.trans hfield)
        exact ⟨_, _, hread⟩
    · exact ih hmem

/-! ## Members of objects -/

/-- A member that gives an update is read. -/
theorem reads_fieldMember_of_update {m : Member} (hm : m.IsSpaced) {member : String × List Char}
    (hgives : m.Gives member) (hvalue : IsValue m.value) {seen seen₁ : List String} {s s₁ : σ}
    (hupdate : Update ReadsAs fields seen s member seen₁ s₁) {more : List UInt8}
    (hmore : EndsNumber (spell m.after ++ more)) :
    Reads (fieldMember fields seen s) (spell m.body ++ more) (seen₁, s₁)
      (spell m.after ++ more) := by
  obtain ⟨hkey, heq⟩ := hgives
  rw [spell_body]
  refine (reads_string_of_spells hkey _).bind ?_
  cases hupdate with
  | unknown hfield =>
    rw [field?] at hfield
    simp only [hfield]
    refine (reads_colon_gap hm.afterKey _).bind ?_
    exact (readsAs_skipValue hvalue _ _ hm.beforeValue hmore).bind (reads_pure _ _)
  | known hfield hseen hread =>
    rw [field?] at hfield
    simp only [hfield, if_neg hseen]
    refine (reads_colon_gap hm.afterKey _).bind ?_
    rw [heq]
    exact (hread _ _ hm.beforeValue hmore).bind (reads_pure _ _)

/-- The members after the first one are read, up to and with the closing brace. -/
theorem reads_moreFields_of_updates {ms : List Member} (hspaced : ∀ m ∈ ms, m.IsSpaced)
    (hvalues : ∀ m ∈ ms, IsValue m.value) {members : List (String × List Char)}
    (hgives : List.Forall₂ Member.Gives ms members) {seen : List String} {s s' : σ}
    (hupdates : Updates ReadsAs fields seen s members s') {gap : List Char} (hgap : IsGap gap)
    {count : Nat} (hcount : ms.length < count) (rest : List UInt8) :
    Reads (moreFields fields count seen s) (spell gap ++ membersTail ms rest) s' rest := by
  induction hgives generalizing seen s gap count with
  | nil =>
    obtain ⟨n, rfl⟩ : ∃ n, count = n + 1 := ⟨count - 1, by omega⟩
    cases hupdates with
    | nil =>
      rw [moreFields, reads_gap hgap]
      exact (reads_next? (by decide) rest).bind ((reads_skip _ rest).bind (reads_pure _ rest))
  | @cons m member ms members hfirst _ ih =>
    obtain ⟨n, rfl⟩ : ∃ n, count = n + 1 := ⟨count - 1, by omega⟩
    obtain ⟨hm, hspaced⟩ := List.forall_mem_cons.mp hspaced
    obtain ⟨hvalue, hvalues⟩ := List.forall_mem_cons.mp hvalues
    have hlength : ms.length < n := by
      rw [List.length_cons] at hcount
      omega
    cases hupdates with
    | cons hupdate hupdates =>
      have hmember := reads_fieldMember_of_update hm hfirst hvalue hupdate
        (endsNumber_membersTail hm.after ms rest)
      rw [moreFields, reads_gap hgap, membersTail_cons]
      refine (reads_next? (by decide) _).bind ((reads_skip _ _).bind ((reads_key_iff hm).mpr ?_))
      exact hmember.bind (ih hspaced hvalues hupdates hm.after hlength)

/-- A record is read from an object of values whose members give updates. -/
theorem readsAs_record_object {members : List (String × List Char)} {cs : List Char}
    (h : IsObjectOf members cs) (hvalues : ∀ member ∈ members, IsValue member.2) {s s' : σ}
    (hupdates : Updates ReadsAs fields [] s members s') :
    ReadsAs (record wanted fields s) cs s' := by
  obtain ⟨ms, hobject, hgives⟩ := h
  obtain ⟨-, htexts⟩ := forall_of_gives hgives hvalues
  intro gap rest hgap _
  cases hobject with
  | nil hinner =>
    obtain rfl := List.forall₂_nil_left_iff.mp hgives
    cases hupdates with
    | nil =>
      rw [record, reads_gap hgap, spell_emptyObject]
      refine (reads_next? (by decide) _).bind ((reads_skip _ _).bind ((reads_gap hinner).mpr ?_))
      exact (reads_next? (by decide) _).bind ((reads_skip _ rest).bind (reads_pure s rest))
  | @cons m ms hspaced =>
    obtain ⟨member, members, hfirst, hothers, rfl⟩ := List.forall₂_cons_left_iff.mp hgives
    obtain ⟨hm, hspaced⟩ := List.forall_mem_cons.mp hspaced
    obtain ⟨hvalue, htexts⟩ := List.forall_mem_cons.mp htexts
    cases hupdates with
    | cons hupdate hupdates =>
      have hmember := reads_fieldMember_of_update hm hfirst hvalue hupdate
        (endsNumber_membersTail hm.after ms rest)
      rw [record, reads_gap hgap, spell_object]
      refine (reads_next? (by decide) _).bind ((reads_skip _ _).bind ((reads_key_iff hm).mpr ?_))
      refine hmember.bind ((reads_bound _).bind ?_)
      refine reads_moreFields_of_updates hspaced htexts hothers hupdates hm.after ?_ rest
      rw [List.length_append]
      exact Nat.lt_add_left _ (length_lt_length_membersTail ms rest)

/-! ## Elements of arrays -/

/-- The closing bracket is taken where all fields that are left are optional. -/
theorem reads_arrayFields_done {left : List (Field σ)}
    (h : ∀ field ∈ left, field.optional = true) (done : Nat) (s : σ) {gap : List Char}
    (hgap : IsGap gap) (rest : List UInt8) :
    Reads (arrayFields wanted done left s) (spell gap ++ code ']' :: rest) s rest := by
  cases left with
  | nil =>
    have hend : Reads arrayEnd (spell gap ++ code ']' :: rest) () rest :=
      (reads_gap hgap).mpr ((reads_next? (by decide) rest).bind (reads_skip _ rest))
    exact hend.bind (reads_pure s rest)
  | cons field left =>
    have hnone : (field :: left).findIdx? (fun field => !field.optional) = none := by
      rw [List.findIdx?_eq_none_iff]
      intro field hfield
      rw [h field hfield]
      rfl
    rw [arrayFields, reads_gap hgap]
    refine (reads_next? (by decide) rest).bind ?_
    simp only [if_true]
    refine (reads_skip _ rest).bind ?_
    rw [hnone]
    exact reads_pure s rest

/-- The elements after the first one are read, up to and with the closing bracket. -/
theorem reads_arrayFields {es : List Element} (hspaced : ∀ e ∈ es, e.IsSpaced)
    (hvalues : ∀ e ∈ es, IsValue e.value) {left : List (Field σ)} {s s' : σ}
    (hleads : Leads ReadsAs left s (es.map Element.value) s') {done : Nat} (hdone : done ≠ 0)
    {gap : List Char} (hgap : IsGap gap) (rest : List UInt8) :
    Reads (arrayFields wanted done left s) (spell gap ++ elementsTail es rest) s' rest := by
  induction es generalizing left s done gap with
  | nil =>
    cases hleads with
    | done hleft => exact reads_arrayFields_done hleft done s' hgap rest
  | cons e es ih =>
    obtain ⟨⟨hbefore, hafter⟩, hspaced⟩ := List.forall_mem_cons.mp hspaced
    obtain ⟨hvalue, hvalues⟩ := List.forall_mem_cons.mp hvalues
    obtain ⟨b, tail, hstart, htold⟩ := exists_toldBy hvalue
    obtain ⟨hspace, hclose⟩ := htold.starts
    cases hleads with
    | next hread hleads =>
      have hne : ¬code ',' = code ']' := by decide
      rw [arrayFields, reads_gap hgap, elementsTail_cons]
      refine (reads_next? (by decide) _).bind ?_
      simp only [if_neg hne, if_neg hdone, if_true]
      refine (reads_skip _ _).bind ((reads_value_iff hbefore hstart hspace).mpr ?_)
      simp only [if_neg hclose]
      exact (hread [] _ isGap_nil (endsNumber_elementsTail hafter es rest)).bind
        (ih hspaced hvalues hleads (Nat.succ_ne_zero done) hafter)

/-- A record is read from an array of values for its first fields. -/
theorem readsAs_record_array {values : List (List Char)} {cs : List Char}
    (h : IsArrayOf values cs) (hvalues : ∀ value ∈ values, IsValue value) {s s' : σ}
    (hleads : Leads ReadsAs fields s values s') : ReadsAs (record wanted fields s) cs s' := by
  obtain ⟨es, harray, rfl⟩ := h
  rw [List.forall_mem_map] at hvalues
  have hne : ¬code '[' = code '\x7b' := by decide
  intro gap rest hgap _
  cases harray with
  | nil hinner =>
    cases hleads with
    | done hleft =>
      rw [record, reads_gap hgap, spell_emptyArray]
      refine (reads_next? (by decide) _).bind ((reads_skip _ _).bind ?_)
      exact reads_arrayFields_done hleft 0 _ hinner rest
  | @cons e es hspaced =>
    obtain ⟨⟨hbefore, hafter⟩, hspaced⟩ := List.forall_mem_cons.mp hspaced
    obtain ⟨hvalue, hvalues⟩ := List.forall_mem_cons.mp hvalues
    obtain ⟨b, tail, hstart, htold⟩ := exists_toldBy hvalue
    obtain ⟨hspace, hclose⟩ := htold.starts
    cases hleads with
    | next hread hleads =>
      rw [record, reads_gap hgap, spell_array]
      refine (reads_next? (by decide) _).bind ((reads_skip _ _).bind ?_)
      rw [arrayFields]
      refine (reads_value_iff hbefore hstart hspace).mpr ?_
      simp only [if_neg hclose, if_true]
      exact (hread [] _ isGap_nil (endsNumber_elementsTail hafter es rest)).bind
        (reads_arrayFields hspaced hvalues hleads (Nat.succ_ne_zero 0) hafter rest)

/-! ## What a record was read from -/

/-- The readers of all fields take values as a whole. -/
def TakesFieldsWhole (fields : List (Field σ)) : Prop :=
  ∀ field ∈ fields, ∀ s, TakesWhole (field.read s)

/-- A member that was read gave an update. -/
theorem update_of_reads (hfields : TakesFieldsWhole fields) {m : Member} (hm : m.IsSpaced)
    (hkey : IsContent m.key) (hvalue : IsValue m.value) {seen seen₁ : List String} {s s₁ : σ}
    {more left : List UInt8} (hmore : EndsNumber (spell m.after ++ more))
    (hread : Reads (fieldMember fields seen s) (spell m.body ++ more) (seen₁, s₁) left) :
    left = spell m.after ++ more ∧
      ∀ member, m.Gives member → Update CanRead fields seen s member seen₁ s₁ := by
  rw [spell_body] at hread
  obtain ⟨key, _, hname, hread⟩ := hread.exists_of_bind
  obtain rfl := left_eq_of_reads_string hkey hname
  have hmember : ∀ member, m.Gives member → member = (key, m.value) := fun member hgives =>
    Prod.ext ((reads_string_of_spells hgives.1 _).unique hname).1 hgives.2.symm
  cases hfield : field? fields key with
  | none =>
    rw [field?] at hfield
    simp only [hfield] at hread
    rw [(reads_colon_gap hm.afterKey _).bind_iff] at hread
    obtain ⟨_, _, hskip, hread⟩ := hread.exists_of_bind
    obtain rfl := takesWhole_skipValue hvalue hm.beforeValue hmore hskip
    obtain ⟨hstate, rfl⟩ := hread.unique (reads_pure _ _)
    obtain ⟨rfl, rfl⟩ := Prod.mk.inj hstate
    exact ⟨rfl, fun member hgives => hmember member hgives ▸ .unknown hfield⟩
  | some field =>
    obtain ⟨hmem, -⟩ := mem_and_key_of_field? hfield
    rw [field?] at hfield
    by_cases hseen : key ∈ seen
    · simp only [hfield, if_pos hseen] at hread
      cases hread
    · simp only [hfield, if_neg hseen] at hread
      rw [(reads_colon_gap hm.afterKey _).bind_iff] at hread
      obtain ⟨_, _, hstate, hread⟩ := hread.exists_of_bind
      have hcan := hstate
      obtain rfl := hfields field hmem s hvalue hm.beforeValue hmore hstate
      obtain ⟨hpair, rfl⟩ := hread.unique (reads_pure _ _)
      obtain ⟨rfl, rfl⟩ := Prod.mk.inj hpair
      exact ⟨rfl, fun member hgives => hmember member hgives ▸
        .known hfield hseen ⟨_, _, _, hm.beforeValue, hmore, hcan⟩⟩

/-- Members after the first one that were read gave updates. -/
theorem updates_of_reads_moreFields (hfields : TakesFieldsWhole fields) {ms : List Member}
    (hspaced : ∀ m ∈ ms, m.IsSpaced) (hkeys : ∀ m ∈ ms, IsContent m.key)
    (hvalues : ∀ m ∈ ms, IsValue m.value) {gap : List Char} (hgap : IsGap gap) {count : Nat}
    {seen : List String} {s s' : σ} {rest left : List UInt8}
    (hread : Reads (moreFields fields count seen s) (spell gap ++ membersTail ms rest) s' left) :
    left = rest ∧ ∀ members, List.Forall₂ Member.Gives ms members →
      Updates CanRead fields seen s members s' := by
  induction ms generalizing count gap seen s with
  | nil =>
    cases count with
    | zero => cases hread
    | succ count =>
      rw [moreFields, reads_gap hgap] at hread
      have hclose : Reads (do skip; pure s) (code '\x7d' :: rest) s' left :=
        (reads_next? (by decide) rest).bind_iff.mp hread
      obtain ⟨rfl, rfl⟩ := hclose.unique ((reads_skip _ rest).bind (reads_pure s rest))
      refine ⟨rfl, fun members hgives => ?_⟩
      obtain rfl := List.forall₂_nil_left_iff.mp hgives
      exact .nil seen s'
  | cons m ms ih =>
    obtain ⟨hm, hspaced⟩ := List.forall_mem_cons.mp hspaced
    obtain ⟨hkey, hkeys⟩ := List.forall_mem_cons.mp hkeys
    obtain ⟨hvalue, hvalues⟩ := List.forall_mem_cons.mp hvalues
    cases count with
    | zero => cases hread
    | succ count =>
      have hne : ¬code ',' = code '\x7d' := by decide
      rw [moreFields, reads_gap hgap, membersTail_cons, (reads_next? (by decide) _).bind_iff]
        at hread
      simp only [if_neg hne, if_true] at hread
      rw [(reads_skip _ _).bind_iff, reads_key_iff hm] at hread
      simp only [if_true] at hread
      obtain ⟨⟨seen₁, s₁⟩, _, hmember, hread⟩ := hread.exists_of_bind
      obtain ⟨rfl, hupdate⟩ := update_of_reads hfields hm hkey hvalue
        (endsNumber_membersTail hm.after ms rest) hmember
      obtain ⟨rfl, hupdates⟩ := ih hspaced hkeys hvalues hm.after hread
      refine ⟨rfl, fun members hgives => ?_⟩
      obtain ⟨member, others, hfirst, hothers, rfl⟩ := List.forall₂_cons_left_iff.mp hgives
      exact .cons (hupdate member hfirst) (hupdates others hothers)

/-- An object of values that was read as a record gave updates. -/
theorem updates_of_reads_record (hfields : TakesFieldsWhole fields) {ms : List Member}
    {cs : List Char} (hobject : IsObject ms cs) (hkeys : ∀ m ∈ ms, IsContent m.key)
    (hvalues : ∀ m ∈ ms, IsValue m.value) {gap : List Char} (hgap : IsGap gap) {s s' : σ}
    {rest left : List UInt8}
    (hread : Reads (record wanted fields s) (spell gap ++ (spell cs ++ rest)) s' left) :
    left = rest ∧ ∀ members, List.Forall₂ Member.Gives ms members →
      Updates CanRead fields [] s members s' := by
  rw [record, reads_gap hgap] at hread
  cases hobject with
  | nil hinner =>
    rw [spell_emptyObject, (reads_next? (by decide) _).bind_iff] at hread
    simp only [if_true] at hread
    rw [objectFields, (reads_skip _ _).bind_iff, reads_gap hinner] at hread
    have hclose : Reads (do skip; pure s) (code '\x7d' :: rest) s' left :=
      (reads_next? (by decide) rest).bind_iff.mp hread
    obtain ⟨rfl, rfl⟩ := hclose.unique ((reads_skip _ rest).bind (reads_pure s rest))
    refine ⟨rfl, fun members hgives => ?_⟩
    obtain rfl := List.forall₂_nil_left_iff.mp hgives
    exact .nil [] s'
  | @cons m ms hspaced =>
    obtain ⟨hm, hspaced⟩ := List.forall_mem_cons.mp hspaced
    obtain ⟨hkey, hkeys⟩ := List.forall_mem_cons.mp hkeys
    obtain ⟨hvalue, hvalues⟩ := List.forall_mem_cons.mp hvalues
    have hne : ¬code '"' = code '\x7d' := by decide
    rw [spell_object, (reads_next? (by decide) _).bind_iff] at hread
    simp only [if_true] at hread
    rw [objectFields, (reads_skip _ _).bind_iff, reads_key_iff hm] at hread
    simp only [if_neg hne, if_true] at hread
    obtain ⟨⟨seen₁, s₁⟩, _, hmember, hread⟩ := hread.exists_of_bind
    obtain ⟨rfl, hupdate⟩ := update_of_reads hfields hm hkey hvalue
      (endsNumber_membersTail hm.after ms rest) hmember
    rw [(reads_bound _).bind_iff] at hread
    obtain ⟨rfl, hupdates⟩ :=
      updates_of_reads_moreFields hfields hspaced hkeys hvalues hm.after hread
    refine ⟨rfl, fun members hgives => ?_⟩
    obtain ⟨member, others, hfirst, hothers, rfl⟩ := List.forall₂_cons_left_iff.mp hgives
    exact .cons (hupdate member hfirst) (hupdates others hothers)

/-- Nothing is taken behind the closing bracket of an array that was read. -/
theorem left_eq_of_reads_arrayFields_done {done : Nat} {fields : List (Field σ)} {s s' : σ}
    {gap : List Char} (hgap : IsGap gap) {rest left : List UInt8}
    (hread : Reads (arrayFields wanted done fields s) (spell gap ++ code ']' :: rest) s' left) :
    left = rest := by
  cases fields with
  | nil =>
    have hend : Reads arrayEnd (spell gap ++ code ']' :: rest) () rest :=
      (reads_gap hgap).mpr ((reads_next? (by decide) rest).bind (reads_skip _ rest))
    exact (hread.unique (hend.bind (reads_pure s rest))).2
  | cons field fields =>
    rw [arrayFields, reads_gap hgap, (reads_next? (by decide) rest).bind_iff] at hread
    simp only [if_true] at hread
    rw [endEarly, (reads_skip _ rest).bind_iff] at hread
    cases hfind : (field :: fields).findIdx? (fun field => !field.optional) with
    | none =>
      rw [hfind] at hread
      exact (hread.unique (reads_pure s rest)).2
    | some i =>
      rw [hfind] at hread
      cases hread

/-- The end of an array is not taken where something else stands. -/
theorem not_reads_arrayEnd {gap : List Char} (hgap : IsGap gap) {b : UInt8}
    (hspace : isSpace b = false) (hclose : b ≠ code ']') (tail left : List UInt8) :
    ¬Reads arrayEnd (spell gap ++ b :: tail) () left := by
  intro hread
  rw [arrayEnd, reads_gap hgap, (reads_next? hspace _).bind_iff] at hread
  by_cases hcomma : b = code ','
  · simp only [if_neg hclose, if_pos hcomma] at hread
    obtain ⟨_, _, -, hread⟩ := hread.exists_of_bind
    obtain ⟨c?, _, -, hread⟩ := hread.exists_of_bind
    cases c? with
    | none => cases hread
    | some c =>
      by_cases hend : c = code ']'
      · simp only [if_pos hend] at hread
        cases hread
      · simp only [if_neg hend] at hread
        cases hread
  · simp only [if_neg hclose, if_neg hcomma] at hread
    cases hread

/-- An array that was read as a record was taken as a whole, from its second element on. -/
theorem left_eq_of_reads_arrayFields {es : List Element} (hspaced : ∀ e ∈ es, e.IsSpaced)
    (hvalues : ∀ e ∈ es, IsValue e.value) {fields : List (Field σ)}
    (hfields : TakesFieldsWhole fields) {done : Nat} (hdone : done ≠ 0) {s s' : σ} {gap : List Char}
    (hgap : IsGap gap) {rest left : List UInt8}
    (hread : Reads (arrayFields wanted done fields s) (spell gap ++ elementsTail es rest) s' left) :
    left = rest := by
  induction es generalizing fields s done gap with
  | nil => exact left_eq_of_reads_arrayFields_done hgap hread
  | cons e es ih =>
    obtain ⟨⟨hbefore, hafter⟩, hspaced⟩ := List.forall_mem_cons.mp hspaced
    obtain ⟨hvalue, hvalues⟩ := List.forall_mem_cons.mp hvalues
    obtain ⟨b, tail, hstart, htold⟩ := exists_toldBy hvalue
    obtain ⟨hspace, hclose⟩ := htold.starts
    have hne : ¬code ',' = code ']' := by decide
    rw [elementsTail_cons] at hread
    cases fields with
    | nil =>
      obtain ⟨_, _, hend, -⟩ := hread.exists_of_bind
      exact absurd hend (not_reads_arrayEnd hgap (by decide) hne _ _)
    | cons field fields =>
      obtain ⟨hfirst, hfields⟩ := List.forall_mem_cons.mp hfields
      rw [arrayFields, reads_gap hgap, (reads_next? (by decide) _).bind_iff] at hread
      simp only [if_neg hne, if_neg hdone, if_true] at hread
      rw [(reads_skip _ _).bind_iff, reads_value_iff hbefore hstart hspace] at hread
      simp only [if_neg hclose] at hread
      obtain ⟨s₁, _, hstate, hread⟩ := hread.exists_of_bind
      obtain rfl := hfirst s hvalue isGap_nil (endsNumber_elementsTail hafter es rest) hstate
      exact ih hspaced hvalues hfields (Nat.succ_ne_zero done) hafter hread

/-- An array that was read as a record was taken as a whole. -/
theorem left_eq_of_reads_record (hfields : TakesFieldsWhole fields) {es : List Element}
    {cs : List Char} (harray : IsArray es cs) (hvalues : ∀ e ∈ es, IsValue e.value)
    {gap : List Char} (hgap : IsGap gap) {s s' : σ} {rest left : List UInt8}
    (hread : Reads (record wanted fields s) (spell gap ++ (spell cs ++ rest)) s' left) :
    left = rest := by
  have hne : ¬code '[' = code '\x7b' := by decide
  rw [record, reads_gap hgap] at hread
  cases harray with
  | nil hinner =>
    rw [spell_emptyArray, (reads_next? (by decide) _).bind_iff] at hread
    simp only [if_neg hne, if_true] at hread
    rw [(reads_skip _ _).bind_iff] at hread
    exact left_eq_of_reads_arrayFields_done hinner hread
  | @cons e es hspaced =>
    obtain ⟨⟨hbefore, hafter⟩, hspaced⟩ := List.forall_mem_cons.mp hspaced
    obtain ⟨hvalue, hvalues⟩ := List.forall_mem_cons.mp hvalues
    obtain ⟨b, tail, hstart, htold⟩ := exists_toldBy hvalue
    obtain ⟨hspace, hclose⟩ := htold.starts
    rw [spell_array, (reads_next? (by decide) _).bind_iff] at hread
    simp only [if_neg hne, if_true] at hread
    rw [(reads_skip _ _).bind_iff] at hread
    cases fields with
    | nil =>
      obtain ⟨_, _, hend, -⟩ := hread.exists_of_bind
      rw [hstart, List.cons_append] at hend
      exact absurd hend (not_reads_arrayEnd hbefore hspace hclose _ _)
    | cons field fields =>
      obtain ⟨hfirst, hfields⟩ := List.forall_mem_cons.mp hfields
      rw [arrayFields, reads_value_iff hbefore hstart hspace] at hread
      simp only [if_neg hclose, if_true] at hread
      obtain ⟨s₁, _, hstate, hread⟩ := hread.exists_of_bind
      obtain rfl := hfirst s hvalue isGap_nil (endsNumber_elementsTail hafter es rest) hstate
      exact left_eq_of_reads_arrayFields hspaced hvalues hfields (Nat.succ_ne_zero 0) hafter hread

/-- Records are taken as a whole if the values of their fields are. -/
theorem takesWhole_record (hfields : TakesFieldsWhole fields) (s : σ) :
    TakesWhole (record wanted fields s) := by
  intro cs gap s' rest left hcs hgap _ hread
  obtain ⟨b, tail, hspell, htold⟩ := exists_toldBy hcs
  by_cases hbrace : b = code '\x7b'
  · subst hbrace
    obtain ⟨ms, hobject, hkeys, hvalues⟩ := exists_isObject_of_toldBy htold
    exact (updates_of_reads_record hfields hobject hkeys hvalues hgap hread).1
  · by_cases hbracket : b = code '['
    · subst hbracket
      obtain ⟨es, harray, hvalues⟩ := exists_isArray_of_toldBy htold
      exact left_eq_of_reads_record hfields harray hvalues hgap hread
    · have hhead := (reads_value_iff hgap hspell htold.starts.1).mp hread
      simp only [if_neg hbrace, if_neg hbracket] at hhead
      exact absurd hhead (not_reads_failType _ _ _ _)

end DispatchScan.Json.Reader
