import SchemaGrammar.Proofs.Collection.Table
import SchemaGrammar.Proofs.Grammar.Form
import Mathlib.Data.List.Nodup

/-!
# Grammars survive their structured form

A grammar that is written down and read again is the same grammar, its rules in the same order,
unless its form is nested too deep for a text.  As a value it loses the order of its rules.

**Results.**
* `Rule.Form.takes`, `Metadata.Form.takes`, `Grammar.Form.takes`: forms of rules, metadata and
  grammars are read back.
* `Grammar.roundtrip`: the three ways of writing a grammar and reading it again.
-/

namespace SchemaGrammar

namespace Rule

/-- A value is a form of a rule. -/
inductive Form : Rule → Json → Prop
  | record {name : String} {definition : Element} {v : Json} {ms : List (String × Json)} :
      definition.Form v →
      ms.Perm [("name", .str name), ("definition", v)] →
      Form ⟨name, definition⟩ (.obj ms)

variable {rule : Rule} {v : Json}

/-- A rule is written in one of its forms. -/
theorem form_toJson
    (rule : Rule) :
    rule.Form rule.toJson :=
  .record rule.definition.form_toJson (.refl _)

theorem Form.sorted
    (h : rule.Form v) :
    rule.Form v.sorted := by
  obtain ⟨hdefinition, hms⟩ := h
  have hperm := Json.perm_sortMembers_of_perm hms (by simp)
  exact .record hdefinition.sorted hperm

/-- Every form of a rule is read back. -/
theorem Form.takes
    (h : rule.Form v) :
    shape.decode.Takes v rule := by
  obtain @⟨name, definition, v, ms, hdefinition, hms⟩ := h
  have hname : shape.TakesMember ("name", .str name) fun r => { r with name } :=
    ⟨_, rfl, (Decoder.takes_string name).map _⟩
  have hbody : shape.TakesMember ("definition", v) fun r => { r with definition } :=
    ⟨_, rfl, hdefinition.takes.map _⟩
  exact Shape.takes_obj hms (.cons hname (.cons hbody .nil)) (by simp)
    (by simp [shape, Field.mandatory]) (by simp)

end Rule

namespace Metadata

section Entries

/-- The keys with a meaning of their own. -/
def knownKeys : List String := ["name", "version", "description"]

def texts (m : Metadata) : List (String × Json) :=
  textMember "name" m.name ++ textMember "version" m.version ++
    textMember "description" m.description

/-- The members of the form of metadata. -/
def members (m : Metadata) : List (String × Json) := m.texts ++ m.extra.entries

/-- A member of metadata: a canonical value, and a text under a known key. -/
structure IsEntry (e : String × Json) : Prop where
  canonical : e.2.Canonical
  text : e.1 ∈ knownKeys → ∃ text, e.2 = .str text

def textOf : Json → Option String
  | .str text => some text
  | _ => none

def put (m : Metadata) (e : String × Json) : Metadata :=
  if e.1 = "name" then { m with name := textOf e.2 }
  else if e.1 = "version" then { m with version := textOf e.2 }
  else if e.1 = "description" then { m with description := textOf e.2 }
  else { m with extra := m.extra.insert e.1 e.2 }

/-- Members of different names may be put in any order. -/
theorem put_comm
    {a b : String × Json}
    (hne : a.1 ≠ b.1)
    (m : Metadata) :
    (m.put a).put b = (m.put b).put a := by
  unfold put
  split_ifs <;> simp_all [KeyMap.insert_comm hne]

variable {r : Reading} {p : Progress} {key : String} {v : Json} {d : Doc}

/-- A text under a known key is kept, and the key noted. -/
theorem readEntry_known
    (hkey : key ∈ knownKeys)
    (hseen : key ∉ p.seen)
    {text : String}
    (hd : d.StandsFor (.str text)) :
    readEntry r p key d = .ok ⟨key :: p.seen, p.value.put (key, .str text)⟩ := by
  have hcontains : p.seen.contains key = false := by simpa using hseen
  have hread : Decoder.optional Decoder.string r d = .ok (some text) := by
    rw [(Decoder.takes_string text).optional (by simp) r hd]
    exact r.allowance.grant_zero _ _
  simp only [knownKeys, List.mem_cons, List.not_mem_nil, or_false] at hkey
  unfold readEntry
  rw [hcontains, hread]
  rcases hkey with rfl | rfl | rfl <;> rfl

/-- A canonical value under any other key is kept as it is. -/
theorem readEntry_other
    (hkey : key ∉ knownKeys)
    (hv : v.Canonical)
    (hd : d.StandsFor v) :
    readEntry r p key d =
      r.allowance.grant (.malformed .tooDeep) v.depth { p with value := p.value.put (key, v) } := by
  simp only [knownKeys, List.mem_cons, List.not_mem_nil, or_false, not_or] at hkey
  obtain ⟨hname, hversion, hdescription⟩ := hkey
  unfold readEntry put
  dsimp only
  rw [if_neg hname, if_neg hversion, if_neg hdescription, if_neg hname, if_neg hversion,
    if_neg hdescription, Decoder.takes_json v r hd]
  refine Allowance.grant_bind_ok ?_
  rw [Json.sorted_of_canonical v hv]
  rfl

/-- An entry is put in, and no other key is noted. -/
theorem exists_readEntry
    (hentry : IsEntry (key, v))
    (hseen : key ∉ p.seen)
    (hd : d.StandsFor v) :
    ∃ seen, (∀ key' ∈ seen, key' = key ∨ key' ∈ p.seen) ∧
      readEntry r p key d =
        r.allowance.grant (.malformed .tooDeep) v.depth ⟨seen, p.value.put (key, v)⟩ := by
  by_cases hknown : key ∈ knownKeys
  · obtain ⟨text, rfl⟩ := hentry.text hknown
    refine ⟨key :: p.seen, fun key' => List.mem_cons.mp, ?_⟩
    rw [readEntry_known hknown hseen hd]
    exact (r.allowance.grant_zero _ _).symm
  · exact ⟨p.seen, fun key' => .inr, readEntry_other hknown hentry.canonical hd⟩

/-- The entries are put in one after the other. -/
theorem readEntries_members
    {ms : List (String × Json)}
    (hms : ∀ e ∈ ms, IsEntry e)
    (hkeys : (ms.map Prod.fst).Nodup)
    (hseen : ∀ key ∈ ms.map Prod.fst, key ∉ p.seen)
    {ds : List (StringLit × Doc)}
    (hds : Doc.MembersStandFor ds ms) :
    readEntries r p ds =
      r.allowance.grant (.malformed .tooDeep) (Json.membersDepth ms) (ms.foldl put p.value) := by
  induction ms generalizing p ds with
  | nil =>
      cases hds
      exact (r.allowance.grant_zero _ _).symm
  | cons e ms ih =>
      rw [List.forall_mem_cons] at hms
      obtain ⟨hentry, hms⟩ := hms
      rw [List.map_cons, List.nodup_cons] at hkeys
      obtain ⟨hnew, hkeys⟩ := hkeys
      rw [List.map_cons, List.forall_mem_cons] at hseen
      obtain ⟨hnotSeen, hseen⟩ := hseen
      cases hds with
      | @cons lit key d v ds _ hkey hd hds =>
          obtain ⟨seen, hnoted, hread⟩ := exists_readEntry (r := r) hentry hnotSeen hd
          have hrest : ∀ key' ∈ ms.map Prod.fst, key' ∉ seen := by
            intro key' hmem hin
            rcases hnoted key' hin with rfl | hold
            · exact hnew hmem
            · exact hseen key' hmem hold
          have htail := ih (p := ⟨seen, p.value.put (key, v)⟩) hms hkeys hrest hds
          rw [readEntries, hkey]
          change (readEntry r p key d >>= fun next => readEntries r next ds) = _
          rw [hread]
          exact Allowance.grant_bind htail

/-- What metadata must be to be written: no entry takes a key with a meaning of its own, and
the values are as they are kept in memory, with sorted objects and integers of 64 bits, without
doubles. -/
structure Portable (m : Metadata) : Prop where
  free : ∀ e ∈ m.extra.entries, e.1 ∉ knownKeys
  canonical : ∀ e ∈ m.extra.entries, e.2.Canonical
  integral : ∀ e ∈ m.extra.entries, e.2.Integral

variable {m : Metadata}

/-- Members that are not known by name are kept as they are. -/
theorem foldl_put_extra
    {es : List (String × Json)}
    (hes : ∀ e ∈ es, e.1 ∉ knownKeys) :
    es.foldl put m =
      { m with extra := es.foldl (fun acc e => acc.insert e.1 e.2) m.extra } := by
  induction es generalizing m with
  | nil => rfl
  | cons e es ih =>
      rw [List.forall_mem_cons] at hes
      obtain ⟨hkey, hes⟩ := hes
      simp only [knownKeys, List.mem_cons, List.not_mem_nil, or_false, not_or] at hkey
      obtain ⟨hname, hversion, hdescription⟩ := hkey
      have hput : m.put e = { m with extra := m.extra.insert e.1 e.2 } := by
        rw [put, if_neg hname, if_neg hversion, if_neg hdescription]
      rw [List.foldl_cons, ih hes, hput]
      rfl

/-- Metadata is put together from its members. -/
theorem foldl_put_members
    (h : m.Portable) :
    m.members.foldl put empty = m := by
  obtain ⟨name, version, description, extra⟩ := m
  have hextra := foldl_put_extra (m := ⟨name, version, description, .empty⟩) h.free
  rw [KeyMap.foldl_insert_entries] at hextra
  rw [members, List.foldl_append]
  cases name <;> cases version <;> cases description <;> exact hextra

theorem keys_texts
    (m : Metadata) :
    (m.texts.map Prod.fst).Sublist knownKeys := by
  obtain ⟨name, version, description, extra⟩ := m
  cases name <;> cases version <;> cases description <;>
    simp [texts, textMember, knownKeys]

/-- The known members that are written are texts. -/
theorem exists_text_of_mem_texts
    {e : String × Json}
    (he : e ∈ m.texts) :
    ∃ text, e.2 = .str text := by
  have htext : ∀ {key : String} {text : Option String}, e ∈ textMember key text →
      ∃ text, e.2 = .str text := by
    rintro key (_ | text) hmem
    · cases hmem
    · exact ⟨text, congrArg Prod.snd (List.mem_singleton.mp hmem)⟩
  rw [texts, List.mem_append, List.mem_append] at he
  rcases he with (he | he) | he <;> exact htext he

theorem nodup_members
    (h : m.Portable) :
    (m.members.map Prod.fst).Nodup := by
  have hknown : knownKeys.Nodup := by decide
  rw [members, List.map_append, List.nodup_append]
  refine ⟨hknown.sublist m.keys_texts, KeyMap.nodup_keys_of_sorted m.extra.sorted, ?_⟩
  rintro key htext _ hmem rfl
  obtain ⟨e, he, rfl⟩ := List.mem_map.mp hmem
  exact h.free e he (m.keys_texts.subset htext)

theorem isEntry_of_mem_members
    (h : m.Portable)
    {e : String × Json}
    (he : e ∈ m.members) :
    IsEntry e := by
  rcases List.mem_append.mp he with he | he
  · have htext := exists_text_of_mem_texts he
    refine ⟨?_, fun _ => htext⟩
    obtain ⟨text, htext⟩ := htext
    rw [htext]
    trivial
  · exact ⟨h.canonical e he, fun hknown => absurd hknown (h.free e he)⟩

end Entries

/-- A value is a form of metadata. -/
inductive Form : Metadata → Json → Prop
  | record {m : Metadata} {ms : List (String × Json)} :
      ms.Perm m.members →
      Form m (.obj ms)

variable {m : Metadata} {v : Json}

/-- Metadata are written in one of their forms. -/
theorem form_toJson
    (m : Metadata) :
    m.Form m.toJson :=
  .record (.refl _)

theorem Form.sorted
    (hm : m.Portable)
    (h : m.Form v) :
    m.Form v.sorted := by
  obtain ⟨hms⟩ := h
  have hsame : m.members.map (fun e => (e.1, e.2.sorted)) = m.members := by
    refine (List.map_congr_left fun e he => ?_).trans (List.map_id _)
    rw [Json.sorted_of_canonical e.2 (isEntry_of_mem_members hm he).canonical]
    rfl
  have hperm := Json.perm_sortMembers_of_perm hms (nodup_members hm)
  rw [hsame] at hperm
  exact .record hperm

/-- Every form of metadata is read back. -/
theorem Form.takes
    (hm : m.Portable)
    (h : m.Form v) :
    decoder.Takes v m := by
  cases h with | @record ms hms => ?_
  have hentries : ∀ e ∈ ms, IsEntry e := fun e he => isEntry_of_mem_members hm (hms.mem_iff.mp he)
  have hkeys : (ms.map Prod.fst).Nodup := (hms.map Prod.fst).nodup_iff.mpr (nodup_members hm)
  have hvalue : ms.foldl put empty = m := by
    refine (hms.foldl_eq' (fun a ha b hb s => ?_) empty).trans (foldl_put_members hm)
    by_cases hne : a.1 = b.1
    · rw [List.inj_on_of_nodup_map hkeys ha hb hne]
    · exact put_comm hne s
  rintro r _ (_ | _ | _ | _ | _ | hds)
  refine Reading.enter_bind fun inner => ?_
  rw [readEntries_members hentries hkeys (by simp) hds, hvalue]
  exact Allowance.grant_bind_ok rfl

theorem Form.integral
    (hm : m.Portable)
    (h : m.Form v) :
    v.Integral := by
  cases h with | @record ms hms => ?_
  refine Json.integralMembers_iff.mpr fun e he => ?_
  rcases List.mem_append.mp (hms.mem_iff.mp he) with he | he
  · obtain ⟨text, htext⟩ := exists_text_of_mem_texts he
    rw [htext]
    trivial
  · exact hm.integral e he

end Metadata

namespace Grammar

/-- What is said about metadata holds if there is any. -/
def Portable (g : Grammar) : Prop := ∀ m ∈ g.metadata, m.Portable

/-- The member for metadata, if there is any. -/
inductive MetadataForm : Option Metadata → List (String × Json) → Prop
  | none : MetadataForm none []
  | some {m : Metadata} {v : Json} : m.Form v → MetadataForm (some m) [("metadata", v)]

/-- A value is a form of a grammar. -/
inductive Form : Grammar → Json → Prop
  | record {g : Grammar} {rules tail ms : List (String × Json)} :
      List.Forall₂ (fun m e => m.1 = e.1 ∧ e.2.Form m.2) rules g.rules.entries →
      MetadataForm g.metadata tail →
      ms.Perm (("root", .str g.root) :: ("rules", .obj rules) :: tail) →
      Form g (.obj ms)

variable {g : Grammar} {v : Json}

def ruleMembers (table : Table Rule) : List (String × Json) :=
  table.entries.map fun e => (e.1, e.2.toJson)

/-- Each rule of a table is written under its key. -/
theorem ruleForms_members
    (table : Table Rule) :
    List.Forall₂ (fun m e => m.1 = e.1 ∧ e.2.Form m.2) (ruleMembers table) table.entries := by
  rw [ruleMembers, List.forall₂_map_left_iff]
  exact List.forall₂_same.mpr fun e _ => ⟨rfl, e.2.form_toJson⟩

/-- A grammar is written with its root first, then its rules, then its metadata. -/
theorem exists_toJson
    (g : Grammar) :
    ∃ tail, MetadataForm g.metadata tail ∧
      g.toJson = .obj (("root", .str g.root) :: ("rules", .obj (ruleMembers g.rules)) :: tail) := by
  obtain ⟨root, table, _ | m⟩ := g
  · exact ⟨_, .none, rfl⟩
  · exact ⟨_, .some m.form_toJson, rfl⟩

/-- A grammar is written in one of its forms. -/
theorem form_toJson
    (g : Grammar) :
    g.Form g.toJson := by
  obtain ⟨tail, htail, hjson⟩ := exists_toJson g
  rw [hjson]
  exact .record (ruleForms_members g.rules) htail (.refl _)

theorem MetadataForm.nodup_keys
    {metadata : Option Metadata}
    {tail : List (String × Json)}
    (h : MetadataForm metadata tail)
    (root rules : Json) :
    ((("root", root) :: ("rules", rules) :: tail).map Prod.fst).Nodup := by
  cases h <;> simp

section Members

variable {root : String} {table : Table Rule} {rules : List (String × Json)}

theorem takesMember_root :
    shape.TakesMember ("root", .str root) fun g => { g with root } :=
  ⟨_, rfl, (Decoder.takes_string root).map _⟩

/-- Rules are taken from the members of an object, whatever their order. -/
theorem takesMember_rules
    (h : List.Forall₂ (fun m e => m.1 = e.1 ∧ e.2.Form m.2) rules table.entries) :
    shape.TakesMember ("rules", .obj rules) fun g => { g with rules := table } := by
  have hentries : List.Forall₂ (fun m e => m.1 = e.1 ∧ Rule.shape.decode.Takes m.2 e.2) rules
      table.entries := h.imp fun m e hme => ⟨hme.1, hme.2.takes⟩
  have htable : rulesDecoder.Takes (.obj rules) table := by
    have hmap := (Decoder.takes_map hentries).map Table.ofList
    rwa [Table.ofList_entries] at hmap
  exact ⟨_, rfl, htable.map _⟩

/-- Metadata are taken from their member, if they are portable. -/
theorem takesMember_metadata
    {m : Metadata}
    (hm : m.Portable)
    (h : m.Form v) :
    shape.TakesMember ("metadata", v) fun g => { g with metadata := some m } := by
  have hne : v ≠ .null := by cases h; simp
  exact ⟨_, rfl, ((h.takes hm).optional hne).map _⟩

theorem required_shape
    (tail : List (String × Json)) :
    ∀ field ∈ shape.fields, field.required = true →
      field.name ∈ (("root", .str root) :: ("rules", .obj rules) :: tail).map Prod.fst := by
  simp [shape, Field.mandatory, Field.withDefault]

end Members

/-- Every form of a grammar is read back. -/
theorem Form.takes
    (hg : g.Portable)
    (h : g.Form v) :
    shape.decode.Takes v g := by
  obtain ⟨root, table, metadata⟩ := g
  cases h with
  | @record rules tail ms hrules hmetadata hms =>
      have hkeys := hmetadata.nodup_keys (.str root) (.obj rules)
      cases hmetadata with
      | none =>
          exact Shape.takes_obj hms
            (.cons takesMember_root (.cons (takesMember_rules hrules) .nil))
            hkeys (required_shape []) (by simp)
      | some hm =>
          have hlast := takesMember_metadata (hg _ rfl) hm
          exact Shape.takes_obj hms
            (.cons takesMember_root (.cons (takesMember_rules hrules) (.cons hlast .nil)))
            hkeys (required_shape _) (by simp)

section Sorting

/-- Sorting the members of the rules sorts the rules. -/
theorem sortMembers_ruleMembers
    (table : Table Rule) :
    Json.sortMembers (ruleMembers table) =
      table.sortKeys.entries.map fun e => (e.1, e.2.toJson.sorted) := by
  have hkeys : ((ruleMembers table).map Prod.fst).Nodup := by
    rw [ruleMembers, List.map_map]
    exact table.nodup_keys
  have hperm := Json.perm_sortMembers hkeys
  rw [ruleMembers, List.map_map] at hperm
  refine KeyMap.eq_of_perm (Json.sortMembers_sorted _) ?_
    (hperm.trans (table.sortKeys_perm.map _).symm)
  exact List.pairwise_map.mpr table.sorted_sortKeys

/-- Sorted by key, members and rules stay side by side. -/
theorem ruleForms_sorted
    (table : Table Rule) :
    List.Forall₂ (fun m e => m.1 = e.1 ∧ e.2.Form m.2) (Json.sortMembers (ruleMembers table))
      table.sortKeys.entries := by
  rw [sortMembers_ruleMembers, List.forall₂_map_left_iff]
  exact List.forall₂_same.mpr fun e _ => ⟨rfl, e.2.form_toJson.sorted⟩

theorem MetadataForm.sorted
    {metadata : Option Metadata}
    {tail : List (String × Json)}
    (hmetadata : ∀ m ∈ metadata, m.Portable)
    (h : MetadataForm metadata tail) :
    MetadataForm metadata (tail.map fun m => (m.1, m.2.sorted)) := by
  cases h with
  | none => exact .none
  | some hm => exact .some (hm.sorted (hmetadata _ rfl))

/-- The sorted form of a grammar is a form of the grammar with sorted rules. -/
theorem form_sorted_toJson
    (hg : g.Portable) :
    g.withSortedRules.Form g.toJson.sorted := by
  obtain ⟨tail, htail, hjson⟩ := exists_toJson g
  have hkeys := htail.nodup_keys (.str g.root) (.obj (ruleMembers g.rules))
  rw [hjson]
  exact .record (ruleForms_sorted g.rules) (htail.sorted hg) (Json.perm_sortMembers hkeys)

end Sorting

theorem MetadataForm.integral
    {metadata : Option Metadata}
    {tail : List (String × Json)}
    (hmetadata : ∀ m ∈ metadata, m.Portable)
    (h : MetadataForm metadata tail) :
    Json.IntegralMembers tail := by
  cases h with
  | none => trivial
  | some hm => exact ⟨hm.integral (hmetadata _ rfl), trivial⟩

theorem integral_toJson
    (hg : g.Portable) :
    g.toJson.Integral := by
  obtain ⟨tail, htail, hjson⟩ := exists_toJson g
  have hrules : Json.IntegralMembers (ruleMembers g.rules) := by
    refine Json.integralMembers_iff.mpr fun m hm => ?_
    obtain ⟨e, -, rfl⟩ := List.mem_map.mp hm
    exact ⟨trivial, e.2.definition.integral_toJson, trivial⟩
  rw [hjson]
  exact ⟨trivial, hrules, htail.integral hg⟩

section Exchange

/-- Either text of a grammar is read as the grammar, if its form is not nested too deep. -/
theorem ofText_eq_grant
    (hg : g.Portable)
    {cs : List Char}
    (hcs : JsonText.Spells g.toJson cs) :
    ofText (String.ofList cs) =
      if g.toJson.depth ≤ 127 then .ok g else .error (.malformed .tooDeep) := by
  have hgrant := (g.form_toJson.takes hg).ofText_spelled hcs
  simp only [Allowance.grant, Allowance.admits, decide_eq_true_eq] at hgrant
  exact hgrant

/-- **A grammar survives its structured form.**  Both of its texts are read as the same grammar
if arrays and objects are nested at most 127 deep in it, and are refused for their depth if not;
the value is read as the grammar with sorted rules, however deep it is. -/
theorem roundtrip
    (g : Grammar)
    (hg : g.Portable) :
    (g.toJson.depth ≤ 127 →
      ofText g.compactText = .ok g ∧ ofText g.indentedText = .ok g) ∧
    (127 < g.toJson.depth → ∃ e : DecodeError, e.message = "recursion limit exceeded" ∧
      ofText g.compactText = .error e ∧ ofText g.indentedText = .error e) ∧
    ofValue g.toValue = .ok g.withSortedRules := by
  have hcompact := ofText_eq_grant hg (JsonText.spells_compactChars g.toJson (integral_toJson hg))
  have hindented :=
    ofText_eq_grant hg (JsonText.spells_indentedChars g.toJson 0 (integral_toJson hg))
  refine ⟨fun hdepth => ?_, fun hdepth => ?_, ?_⟩
  · rw [if_pos hdepth] at hcompact hindented
    exact ⟨hcompact, hindented⟩
  · rw [if_neg (Nat.not_le.mpr hdepth)] at hcompact hindented
    exact ⟨.malformed .tooDeep, rfl, hcompact, hindented⟩
  · have htakes : shape.decode.Takes g.toJson.sorted g.withSortedRules :=
      (form_sorted_toJson hg).takes hg
    refine Decoder.Takes.ofValue ?_
    rwa [toValue, Json.sorted_sorted]

/-- Rules out of order, one of them under a key that is not its name, and free metadata. -/
def reviewGrammar : Grammar where
  root := "Review"
  rules :=
    ⟨[("Review", ⟨"Review", .sequence [.nonTerminal "Grade", .optional (.nonTerminal "Text")]⟩),
      ("Text", ⟨"Prose", .list (.terminal "line" (some (.regex "[^\"\\n]+" "i")))⟩),
      ("Grade",
        ⟨"Grade", .oneOf [.terminal "good" (some (.literal "\t+")), .terminal "bad" none]⟩)],
      by decide⟩
  metadata := some
    { name := some "reviews"
      version := none
      description := none
      extra := ⟨[("limits", .arr [.num (.int (-5)), .num (.int 18446744073709551615)]),
        ("source", .obj [("draft", .bool true)])], by decide⟩ }

theorem roundtrip_review :
    reviewGrammar.Portable ∧ reviewGrammar.toJson.depth ≤ 127 ∧
      ofText reviewGrammar.compactText = .ok reviewGrammar ∧
      ofText reviewGrammar.indentedText = .ok reviewGrammar ∧
      ofValue reviewGrammar.toValue = .ok reviewGrammar.withSortedRules := by
  have hportable : reviewGrammar.Portable := by
    rintro m ⟨⟩
    exact ⟨by decide, by simp [Json.Canonical, Json.CanonicalItems, Json.CanonicalMembers],
      by simp [Json.Integral, Json.IntegralItems, Json.IntegralMembers, Number.IsWord]⟩
  have hdepth : reviewGrammar.toJson.depth ≤ 127 := by decide
  obtain ⟨htexts, -, hvalue⟩ := roundtrip reviewGrammar hportable
  exact ⟨hportable, hdepth, (htexts hdepth).1, (htexts hdepth).2, hvalue⟩

end Exchange

end Grammar

end SchemaGrammar
