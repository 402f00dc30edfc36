import SchemaGrammar.Proofs.Json.Canonical
import SchemaGrammar.Proofs.Json.Spelling
import Mathlib.Data.List.Forall2

/-!
# What decoders take

A decoder takes a value for a result if it gives the result whenever it reads a document of the
value, wherever the document comes from, and has no objection but the depth of nesting.  This
is kept by lists, maps and records; the members of a record may stand in any order, provided
that what one of them does to the record does not depend on the others.

**Results.**
* `Shape.takes_obj`: a record is taken if each of its members is.
* `Decoder.Takes.ofText_spelled`, `Decoder.Takes.ofValue`: whole texts and whole values.
-/

namespace SchemaGrammar

variable {α β σ : Type}

/-- The decoder gives the result for every sound document of the value, if that is not nested
too deep. -/
def Decoder.Takes (decoder : Decoder α) (v : Json) (x : α) : Prop :=
  ∀ (r : Reading) {d : Doc}, d.StandsFor v →
    decoder r d = r.allowance.grant (.malformed .tooDeep) v.depth x

namespace Decoder

section Scalars

theorem takes_string
    (s : String) :
    string.Takes (.str s) s := by
  rintro r _ (_ | _ | _ | hlit)
  rw [string, hlit]
  exact (r.allowance.grant_zero _ _).symm

theorem takes_json
    (v : Json) :
    json.Takes v v := by
  intro r d hd
  rw [json, hd.read]
  exact Allowance.ofSyntax_grant

theorem Takes.map
    {item : Decoder α}
    {v : Json}
    {x : α}
    (hitem : item.Takes v x)
    (f : α → β) :
    Takes (fun r d => (item r d).map f) v (f x) := by
  intro r d hd
  have hmap := congrArg (Except.map f) (hitem r hd)
  rwa [Allowance.map_grant] at hmap

/-- An optional value is taken if it is not null. -/
theorem Takes.optional
    {item : Decoder α}
    {v : Json}
    {x : α}
    (hitem : item.Takes v x)
    (hv : v ≠ .null) :
    (optional item).Takes v (some x) := by
  intro r d hd
  have hgrant := hitem.map some r hd
  cases hd with
  | null => exact absurd rfl hv
  | _ => exact hgrant

end Scalars

section Collections

variable {item : Decoder α}

theorem takes_items
    {vs : List Json}
    {xs : List α}
    (h : List.Forall₂ item.Takes vs xs)
    {r : Reading}
    {ds : List Doc}
    (hds : Doc.ItemsStandFor ds vs) :
    items item r ds = r.allowance.grant (.malformed .tooDeep) (Json.itemsDepth vs) xs := by
  induction h generalizing ds with
  | nil =>
      cases hds
      exact (r.allowance.grant_zero _ _).symm
  | cons hv _ ih =>
      cases hds with
      | cons hd hds =>
          rw [items, hv r hd, ih hds]
          exact Allowance.grant_bind (Allowance.grant_bind_ok rfl)

/-- A list is taken item by item. -/
theorem takes_list
    {vs : List Json}
    {xs : List α}
    (h : List.Forall₂ item.Takes vs xs) :
    (list item).Takes (.arr vs) xs := by
  rintro r _ (_ | _ | _ | _ | hds)
  refine Reading.enter_bind fun inner => ?_
  rw [takes_items h hds]
  exact Allowance.grant_bind_ok rfl

theorem takes_entries
    {ms : List (String × Json)}
    {es : List (String × α)}
    (h : List.Forall₂ (fun m e => m.1 = e.1 ∧ item.Takes m.2 e.2) ms es)
    {r : Reading}
    {ds : List (StringLit × Doc)}
    (hds : Doc.MembersStandFor ds ms) :
    entries item r ds = r.allowance.grant (.malformed .tooDeep) (Json.membersDepth ms) es := by
  induction h generalizing ds with
  | nil =>
      cases hds
      exact (r.allowance.grant_zero _ _).symm
  | @cons m e _ _ hm _ ih =>
      obtain ⟨key, v⟩ := m
      obtain ⟨key', x⟩ := e
      obtain ⟨rfl, hv⟩ := hm
      cases hds with
      | cons hkey hd hds =>
          rw [entries, hkey, hv r hd, ih hds]
          exact Allowance.grant_bind (Allowance.grant_bind_ok rfl)

theorem takes_map
    {ms : List (String × Json)}
    {es : List (String × α)}
    (h : List.Forall₂ (fun m e => m.1 = e.1 ∧ item.Takes m.2 e.2) ms es) :
    (map item).Takes (.obj ms) es := by
  rintro r _ (_ | _ | _ | _ | _ | hds)
  refine Reading.enter_bind fun inner => ?_
  rw [takes_entries h hds]
  exact Allowance.grant_bind_ok rfl

end Collections

end Decoder

section Records

variable {shape : Shape σ}

/-- A member of a record is read by the field of its name, as a change of the record. -/
def Shape.TakesMember (shape : Shape σ) (m : String × Json) (change : σ → σ) : Prop :=
  ∃ field, shape.fields.find? (·.name == m.1) = some field ∧ field.read.Takes m.2 change

namespace Shape

/-- The first member goes to the field of its name, unless that has been seen. -/
theorem members_cons
    {r : Reading}
    {seen : List String}
    {s : σ}
    {lit : StringLit}
    {key : String}
    {d : Doc}
    {ds : List (StringLit × Doc)}
    {field : Field σ}
    (hkey : lit.read = .ok key)
    (hfield : shape.fields.find? (·.name == key) = some field)
    (hseen : key ∉ seen) :
    members shape r seen s ((lit, d) :: ds) =
      (field.read r d >>= fun change => members shape r (key :: seen) (change s) ds) := by
  have hcontains : seen.contains key = false := by simpa using hseen
  rw [members, hkey]
  simp only [Decoded.ofSyntax, bind, Except.bind, hfield, hcontains]
  rfl

/-- The members are read one after the other. -/
theorem takes_members
    {ms : List (String × Json)}
    {changes : List (σ → σ)}
    (h : List.Forall₂ shape.TakesMember ms changes)
    (hkeys : (ms.map Prod.fst).Nodup)
    {r : Reading}
    {seen : List String}
    (hseen : ∀ key ∈ ms.map Prod.fst, key ∉ seen)
    {s : σ}
    {ds : List (StringLit × Doc)}
    (hds : Doc.MembersStandFor ds ms) :
    members shape r seen s ds = r.allowance.grant (.malformed .tooDeep) (Json.membersDepth ms)
      ((ms.map Prod.fst).reverse ++ seen, changes.foldl (fun s change => change s) s) := by
  induction h generalizing seen s ds with
  | nil =>
      cases hds
      exact (r.allowance.grant_zero _ _).symm
  | @cons m change ms changes hm _ ih =>
      obtain ⟨key, v⟩ := m
      obtain ⟨field, hfield, hread⟩ := hm
      rw [List.map_cons, List.nodup_cons] at hkeys
      obtain ⟨hnew, hkeys⟩ := hkeys
      rw [List.map_cons, List.forall_mem_cons] at hseen
      obtain ⟨hnotSeen, hseen⟩ := hseen
      have hrest : ∀ key' ∈ ms.map Prod.fst, key' ∉ key :: seen := by
        intro key' hkey'
        rw [List.mem_cons, not_or]
        exact ⟨fun heq => hnew (heq ▸ hkey'), hseen key' hkey'⟩
      cases hds with
      | cons hkey hd hds =>
          have htail := ih hkeys hrest (s := change s) hds
          have hcontains : seen.contains key = false := by simpa using hnotSeen
          rw [members_cons hkey hfield hnotSeen, hread r hd, List.map_cons, List.reverse_cons,
            List.append_assoc]
          exact Allowance.grant_bind htail

/-- A record is taken if each of its members is, in whatever order they stand. -/
theorem takes_obj
    {ms listed : List (String × Json)}
    {changes : List (σ → σ)}
    (hperm : ms.Perm listed)
    (hmembers : List.Forall₂ shape.TakesMember listed changes)
    (hkeys : (listed.map Prod.fst).Nodup)
    (hrequired : ∀ field ∈ shape.fields, field.required = true → field.name ∈ listed.map Prod.fst)
    (hcomm : ∀ f ∈ changes, ∀ g ∈ changes, ∀ s, g (f s) = f (g s)) :
    shape.decode.Takes (.obj ms) (changes.foldl (fun s change => change s) shape.start) := by
  obtain ⟨changes', hmembers', hchanges⟩ := List.perm_comp_forall₂ hperm hmembers
  have hnames : (ms.map Prod.fst).Perm (listed.map Prod.fst) := hperm.map Prod.fst
  have hresult : changes'.foldl (fun s change => change s) shape.start =
      changes.foldl (fun s change => change s) shape.start :=
    hchanges.foldl_eq' (fun f hf g hg s =>
      hcomm f (hchanges.mem_iff.mp hf) g (hchanges.mem_iff.mp hg) s) shape.start
  have hmissing : shape.missing? (ms.map Prod.fst).reverse = none := by
    rw [missing?, Option.map_eq_none_iff, List.find?_eq_none]
    intro field hfield hopen
    rw [Bool.and_eq_true] at hopen
    obtain ⟨hreq, hnot⟩ := hopen
    have hmem := hnames.mem_iff.mpr (hrequired field hfield hreq)
    simp [hmem] at hnot
  rintro r _ (_ | _ | _ | _ | _ | hds)
  refine Reading.enter_bind fun inner => ?_
  rw [takes_members hmembers' (hnames.nodup_iff.mpr hkeys) (by simp) hds]
  refine Allowance.grant_bind_ok ?_
  rw [List.append_nil, hresult]
  refine Eq.trans (pure_bind () _) ?_
  rw [hmissing]
  rfl

/-- A record with one field. -/
theorem takes_single
    {key : String}
    {item : Decoder α}
    {set : α → σ → σ}
    (hfields : shape.fields = [.mandatory key item set])
    {v : Json}
    {x : α}
    (hitem : item.Takes v x)
    {ms : List (String × Json)}
    (hms : ms.Perm [(key, v)]) :
    shape.decode.Takes (.obj ms) (set x shape.start) := by
  have hmember : shape.TakesMember (key, v) (set x) := by
    refine ⟨.mandatory key item set, ?_, hitem.map set⟩
    rw [hfields]
    simp [Field.mandatory]
  exact takes_obj hms (.cons hmember .nil) (by simp) (by simp [hfields, Field.mandatory]) (by simp)

end Shape

end Records

section Whole

variable {decoder : Decoder α} {v : Json} {x : α}

/-- A whole text that spells a value is read unless the value is nested too deep. -/
theorem Decoder.Takes.ofText_spelled
    (h : decoder.Takes v x)
    {cs : List Char}
    (hcs : JsonText.Spells v cs) :
    decoder.ofText (String.ofList cs) =
      Allowance.grant (some Document.depthLimit) (.malformed .tooDeep) v.depth x := by
  obtain ⟨d, hd, hdocument⟩ := Document.exists_ofText hcs
  rw [Decoder.ofText, hdocument]
  dsimp only
  rw [h .text hd]
  exact Allowance.grant_bind_ok rfl

/-- A value that has been set aside is read whatever its depth. -/
theorem Decoder.Takes.ofBuffer
    (h : decoder.Takes v x) :
    decoder .buffer (.ofJson v) = .ok x :=
  h .buffer (Doc.standsFor_ofJson v)

/-- A value is read whatever its depth. -/
theorem Decoder.Takes.ofValue
    (h : decoder.Takes v.sorted x) :
    decoder.ofValue v = .ok x :=
  h .value (Doc.standsFor_ofJson v.sorted)

end Whole

end SchemaGrammar
