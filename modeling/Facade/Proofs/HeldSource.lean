import Facade.Proofs.HookedClass

/-!
# Classes that hold their source

A class around a class may hold the text of its module. The last line of that text assigns all the lines
above it, and these are what the class gives as its source.

* `offers_text`: a class gives the text that its body assigns last.
* `generate_embeds`: the text of a module with such a class has been made from one that ends with the place.
* `createType_holds_source`: a class that is to hold its source does.
* `source_embedded`: what embedding does to a text, and what such a class holds.
-/

namespace Facade.Wrapper

open Run Execution Conversion
open Source
open Syntax (Stmt Expr)

variable {tw : TypeWrapper} {o : TypeOptions} {s : Selection} {k : Named} {w w₁ w' b : World}
  {c m : Nat} {cls : String} {x : Value} {i : ClassInfo}

theorem mangle_sourceAttribute (cls : String) :
    Syntax.mangle (some cls) sourceAttribute = sourceAttribute :=
  Syntax.mangle_of_not_isPrivate _ (by decide)

/-- A class gives the text that its body assigns last. -/
theorem offers_text {pieces : List Piece} {t : String} (hi : ClassMade c b m cls [] (pieces ++
    [.assign sourceAttribute (Expr.str t)]) w k i) :
    Offers w (.cls k) sourceAttribute (.str t) := by
  have hmember : i.members.get? sourceAttribute = some (.str t) := by
    have hleaves := hi.members.leaves pieces (.assign sourceAttribute (Expr.str t)) [] rfl
      fun x hx => ⟨by simp, by
        obtain rfl := Option.some.inj hx
        rw [mangle_sourceAttribute]
        decide⟩
    rw [← mangle_sourceAttribute cls]
    exact hleaves t rfl
  obtain ⟨-, -, -, -, -, ancestors, -, -, -, -, -, -, hlin, -⟩ := hi.derives.ancestors
  have hfound : w.findMember? i.linearisation sourceAttribute = some (.str t) := by
    rw [hlin, World.findMember?, List.findSome?_cons, hi.class_, Option.bind_some, hmember]
  have hattribute : classAttribute? w i sourceAttribute = some (.str t) := by
    rw [show classAttribute? w i sourceAttribute =
      (w.findMember? i.linearisation sourceAttribute).map (classMember i.named) from rfl, hfound]
    rfl
  intro n
  conv_lhs => unfold getAttr
  rw [outcome_get_bind]
  dsimp only
  rw [hi.class_]
  dsimp only
  rw [hattribute]
  rfl

/-- What has been written for a class is the settled text of some layout. -/
theorem typeProgram_settles {compiler : String} {methods : List Describe.MethodInfo}
    {properties : List Describe.PropertyInfo} {q : Program}
    (h : (tw.program k o compiler methods properties).outcome w = (.ok q, w')) :
    ∃ (l : TypeLayout) (modules : List String),
      TypeWrapper.settle o (.ofTree .draft (l.tree o k modules)) = .ok q := by
  unfold TypeWrapper.program at h
  dsimp only at h
  obtain ⟨⟨converted, plan⟩, w₁, -, h₁⟩ := bind_eq_ok h
  rw [outcome_get_bind] at h₁
  dsimp only at h₁
  obtain ⟨l, w₂, -, h₂⟩ := bind_eq_ok h₁
  exact ⟨l, _, (lift_eq_ok h₂).1⟩

/-- The text of a generated module with a class that is to hold its source: it has been embedded into a
text that ends with the place, and where the placeholder occurs nowhere else, the result holds itself. -/
def EmbedsItself (text : String) : Prop :=
  ∃ above, text = embed (linesText (above ++ [placeLine])) sourceAttribute ∧
    (occurrences (placeholder sourceAttribute).toList
        (linesText (above ++ [placeLine])).toList ≤ 1 → HoldsItself text (linesText above))

/-- What is written in a canonical form can be told from its text. -/
def KnownIfCanonical (tw : TypeWrapper) (o : TypeOptions) (x : Value) (w : World) : Prop :=
  o.prettifySource = true → ∀ s w₁ q b, (tw.prepare x o).outcome w = (.ok s, w₁) →
    (tw.program s.cls o s.compiler s.methods s.properties).outcome w₁ = (.ok q, b) → q.known ≠ none

/-- **Every text that is generated for a class that is to hold its source is embedded into itself,** with
any fragments, bases and decorators. -/
theorem generate_embeds {g : GeneratedModule} (hi : o.includeSource = true)
    (hknown : KnownIfCanonical tw o x w) (h : (tw.generate x o).outcome w = (.ok g, w')) :
    EmbedsItself g.text := by
  rw [typeWrapper_generate_eq] at h
  obtain ⟨s, w₁, hprepare, hfinish⟩ := bind_eq_ok h
  unfold TypeWrapper.finish at hfinish
  obtain ⟨p, w₂, hprogram, hrest⟩ := bind_eq_ok hfinish
  obtain ⟨g', w₃, hcompile, hlast⟩ := bind_eq_ok hrest
  obtain ⟨⟨⟩, w₄, -, hdone⟩ := bind_eq_ok hlast
  obtain ⟨rfl, -⟩ : g' = g ∧ w₄ = w' := by simpa using hdone
  obtain ⟨l, modules, hsettle⟩ := typeProgram_settles hprogram
  have hdraft : ∃ layout, p.text =
      embed (Syntax.render layout (l.tree o s.cls modules)) sourceAttribute := by
    cases hp : o.prettifySource with
    | false =>
      rw [settle_eq, hi, hp] at hsettle
      obtain rfl := Except.ok.inj hsettle
      exact ⟨.draft, rfl⟩
    | true =>
      have hne := hknown hp s w₁ p w₂ hprepare hprogram
      obtain ⟨r, htree, htext, rfl⟩ := known_settle hsettle rfl hne
      rw [hi, if_pos rfl] at hne hcompile ⊢
      -- What has been compiled is sound, and so it was before the text was put into it.
      have hfilled : r.embed.known = some (Program.fill
          (withoutPlaceholder r.text sourceAttribute) (l.tree o s.cls modules)) := by
        rw [Program.embed, htree] at hne ⊢
        exact if_pos (by by_contra hmany; exact hne (if_neg hmany))
      obtain ⟨hsound, -⟩ := Compiler.compile_eq_ok hfilled hcompile
      rw [areSound_fill] at hsound
      obtain ⟨layout, hrender⟩ := htext hsound
      exact ⟨layout, by rw [← hrender]; rfl⟩
  obtain ⟨layout, hdraft⟩ := hdraft
  obtain ⟨above, habove⟩ : ∃ above, Syntax.render layout (l.tree o s.cls modules) =
      linesText (above ++ [placeLine]) := by
    unfold TypeLayout.tree
    rw [hi, if_pos rfl]
    exact exists_render ..
  have htext : g'.text = embed (linesText (above ++ [placeLine])) sourceAttribute := by
    rw [Compiler.compile_text hcompile, hdraft, habove]
  exact ⟨above, htext, fun hone => htext ▸ (holdsItself_embed hone).2⟩

/-- **A class that is to hold its source does:** the last line of its module assigns all the lines above
it, and this is the text that the class gives. -/
theorem createType_holds_source (hs : WrappableClass tw o s w₁) (ho : o.includeSource = true)
    (hprepare : (tw.prepare x o).outcome w = (.ok s, w₁))
    (h : (tw.createType x o).outcome w = (.ok k, w')) :
    ∃ g w₂ kept, (tw.generate x o).outcome w = (.ok g, w₂) ∧ HoldsItself g.text kept ∧
      Offers w' (.cls k) sourceAttribute (.str kept) := by
  obtain ⟨l, ps, text, b, g, w₂, hgenerate, -, hg⟩ := typeClass_generated hs hprepare h
  obtain ⟨kept, rfl⟩ := Option.isSome_iff_exists.mp (hg.holds.trans ho)
  obtain ⟨i, hi⟩ := hg.generated.class_
  have hpieces : l.pieces o s.cls ps (some kept) =
      l.pieces o s.cls ps none ++ [.assign sourceAttribute (Expr.str kept)] := by
    simp [TypeLayout.pieces]
  rw [hpieces] at hi
  exact ⟨g, w₂, kept, hgenerate, hg.source kept rfl, offers_text hi⟩

/-- **Embedded source is the source.** A text with a place for it comes to hold itself, and a text without
stays as it is; every text that is generated for a class that is to hold its source is such a text; and the
class gives it, less the line that assigns it. -/
theorem source_embedded (source name : String) (tw : TypeWrapper) (o : TypeOptions) (x : Value)
    (w : World) :
    Source.Embeds source name ∧
    (∀ g w', o.includeSource = true → KnownIfCanonical tw o x w →
      (tw.generate x o).outcome w = (.ok g, w') → EmbedsItself g.text) ∧
    ∀ s w₁ k w', WrappableClass tw o s w₁ →
      o.includeSource = true → (tw.prepare x o).outcome w = (.ok s, w₁) →
      (tw.createType x o).outcome w = (.ok k, w') →
      ∃ g w₂ kept, (tw.generate x o).outcome w = (.ok g, w₂) ∧ HoldsItself g.text kept ∧
        Offers w' (.cls k) sourceAttribute (.str kept) :=
  ⟨embeds source name, fun _ _ => generate_embeds, fun _ _ _ _ => createType_holds_source⟩

/-! ## A class that holds its source -/

/-- Lets a class hold its source. -/
def heldOptions : TypeOptions :=
  { bellOptions false with includeSource := true, prettifySource := false, hooks := {} }

/-- A draft that is to hold itself; the places are counted line by line. -/
def heldDraft (body : List Stmt) : Program :=
  { text := embed (Syntax.render .draft body) sourceAttribute
    known :=
      if ((Stmt.documentedLines .draft 0 body).map fun l =>
          occurrences (placeholder sourceAttribute).toList l.toList).sum ≤ 1 then
        (Program.ofTree .draft body).known.map
          (Program.fill (withoutPlaceholder (Syntax.render .draft body) sourceAttribute))
      else none }

theorem heldDraft_eq (body : List Stmt) : heldDraft body = (Program.ofTree .draft body).embed := by
  rw [heldDraft, ← occurrences_render]
  rfl

theorem prepare_held : (bellWrapper.prepare (.cls bell) heldOptions).outcome (bellWorld false) =
    (.ok (bellSelection false), bellReferenced false) :=
  prepare_bell false

/-- What is written for the class. -/
def heldProgram : Run Program := do
  let plan : Plan := { rules := [], cache := some 0, selfTypeName := some defaultTypeName }
  let (converted, plan) ← planning plan (TypeWrapper.planAll heldOptions [ring false])
  let modules := ((← get).compiler "main").moduleNames
  let layout ← typeLayout heldOptions bell 0 plan converted []
  lift (.ok (heldDraft (layout.tree heldOptions bell modules)))

theorem program_held :
    bellWrapper.program bell heldOptions "main" [ring false] [] = heldProgram := by
  have hdraft (l : TypeLayout) (modules : List String) :
      TypeWrapper.settle heldOptions (.ofTree .draft (l.tree heldOptions bell modules)) =
        .ok (heldDraft (l.tree heldOptions bell modules)) := by
    rw [settle_eq, heldDraft_eq]
    rfl
  unfold TypeWrapper.program heldProgram
  simp only [hdraft]
  rfl

/-- What happens after that. -/
def makeHeld : Run Named := do
  let g ← Compiler.compile "main" (← heldProgram) (seeds 0)
  TypeWrapper.record "INFO" "generated wrapper" bell heldOptions [("module", g.name), ("methods", "1")]
  g.singleType

theorem createType_held :
    (bellWrapper.createType (.cls bell) heldOptions).outcome (bellWorld false) =
      makeHeld.outcome (bellReferenced false) := by
  rw [typeWrapper_createType_eq, outcome_bind_of_ok prepare_held]
  unfold TypeWrapper.finish
  dsimp only [bellSelection]
  rw [program_held]
  unfold makeHeld
  simp only [bind_assoc, pure_bind]
  rfl

theorem makes_held :
    (heldProgram.outcome (bellReferenced false)).1.toOption.all (fun p => p.known.isSome) = true ∧
      (makeHeld.outcome (bellReferenced false)).1.isOk = true := by
  decide +kernel

theorem wrappableClass_held :
    WrappableClass bellWrapper heldOptions (bellSelection false) (bellReferenced false) := by
  obtain ⟨-, hcache, hmodules, hpath, hhints, -, hproperties⟩ := wrappableClass_bell
  refine ⟨⟨rfl, rfl, rfl⟩, hcache, hmodules, hpath, hhints, fun q w' h => ?_, hproperties⟩
  have hlegible := makes_held.1
  rw [← program_held] at hlegible
  have h : (bellWrapper.program bell heldOptions "main" [ring false] []).outcome
      (bellReferenced false) = (.ok q, w') := h
  rw [h] at hlegible
  exact Option.ne_none_iff_isSome.mpr hlegible

/-- A text with a place holds itself, and so do the text of a generated class and that class. -/
theorem source_embedded_bell :
    (∃ before line after, PlaceIn placed sourceAttribute before line after ∧
      ∃ indent trail kept written e,
        line = indent ++ (placeholder sourceAttribute).toList ++ trail ∧
        (∀ c ∈ indent ++ trail, Text.isBlank c = true) ∧
        embed placed sourceAttribute = String.ofList (before.flatten ++
          (indent ++ (sourceAttribute ++ " = " ++ written).toList ++ trail) ++ after.flatten) ∧
        kept = String.ofList (((before ++ after).filter
          fun l => Text.strip l != (placeholder sourceAttribute).toList).flatten) ∧
        Syntax.readExpr written = .ok e ∧ ∀ w fr, Yields w fr e (.str kept)) ∧
    ∃ k w' g w₂ kept,
      (bellWrapper.createType (.cls bell) heldOptions).outcome (bellWorld false) = (.ok k, w') ∧
      (bellWrapper.generate (.cls bell) heldOptions).outcome (bellWorld false) = (.ok g, w₂) ∧
      EmbedsItself g.text ∧ HoldsItself g.text kept ∧
      Offers w' (.cls k) sourceAttribute (.str kept) := by
  obtain ⟨hembeds, hgenerates, hholds⟩ :=
    source_embedded placed sourceAttribute bellWrapper heldOptions (.cls bell) (bellWorld false)
  obtain ⟨k, w', h⟩ := eq_ok_of_isOk makes_held.2
  rw [← createType_held] at h
  obtain ⟨g, w₂, kept, hg, htext, hoffers⟩ :=
    hholds _ _ _ _ wrappableClass_held rfl prepare_held h
  exact ⟨⟨_, _, _, placeIn_placed, hembeds.filled _ _ _ placeIn_placed⟩,
    k, w', g, w₂, kept, h, hg, hgenerates _ _ rfl
      (fun hp => absurd hp Bool.false_ne_true) hg, htext, hoffers⟩

end Facade.Wrapper
