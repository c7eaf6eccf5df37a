import PageBlocks.Convert.Converter
import PageBlocks.Proofs.Page.Preparation

/-!
Conversions of prepared pages. The preparation of a page counts for its reading and for nothing else, so
where every character that is written as a reference comes back, it makes no difference to a conversion.
-/
namespace PageBlocks.Converter

variable {σ ρ : Type}

/-- The converter that prepares pages in the given way. -/
def preparing (c : Converter σ) (p : Preparation) : Converter σ :=
  { c with config := { c.config with preparation := p } }

/-- Of a page that has been read it does not count how it was prepared. -/
theorem convertPage_preparing (c : Converter σ) (p : Preparation) (words : WordSource ρ) (source : ρ)
    (store : σ) (builder : Builder) (o : Options) (d : Markup.Document) :
    (c.preparing p).convertPage words source store builder o d =
      c.convertPage words source store builder o d := by
  rfl

/-- Preparations under which a page reads alike convert it alike. -/
theorem convertWith_preparing {p q : Preparation} {html : String} (h : p.read html = q.read html)
    (c : Converter σ) (words : WordSource ρ) (source : ρ) (store : σ) (o : Options) :
    (c.preparing p).convertWith words source store html o =
      (c.preparing q).convertWith words source store html o := by
  unfold convertWith
  cases o.fault? with
  | some fault => rfl
  | none =>
    let builder := o.target.builder c.active
    calc (c.preparing p).convertPage words source store builder o (p.read html)
      _ = c.convertPage words source store builder o (p.read html) :=
        convertPage_preparing c p words source store builder o _
      _ = c.convertPage words source store builder o (q.read html) := by rw [h]
      _ = (c.preparing q).convertPage words source store builder o (q.read html) :=
        (convertPage_preparing c q words source store builder o _).symm

/-- A page may be written in ASCII for its conversion: where all characters are read as references to
them would be, the result and the state of the store are those of the page as it is. -/
theorem convert_numericReferences (c : Converter σ) (store : σ) (html : String) (o : Options)
    (h : Markup.Parser.start.undoesAll html.toList = true) :
    (Preparation.numericReferences.prepare html).toList.all Text.isAscii = true ∧
      (c.preparing .numericReferences).convert store html o =
        (c.preparing .asIs).convert store html o := by
  have hread : Preparation.numericReferences.read html = Preparation.asIs.read html :=
    Preparation.read_numericReferences h
  exact ⟨Preparation.isAscii_withReferences html, convertWith_preparing hread c _ _ store o⟩

/-- A page with characters outside of ASCII in its title, in a value and in its text, and a converter
with a seed of its own. -/
def greetingPage : String :=
  "<title>Grüße</title><p title=\"naïve\">&ampé</p>"

theorem convert_greetingPage :
    let c : Converter Unit := plain { idSeed := some 7 } 0
    Markup.Parser.start.undoesAll greetingPage.toList = true ∧
      (Preparation.numericReferences.prepare greetingPage).toList.all Text.isAscii = true ∧
        (c.preparing .numericReferences).convert () greetingPage {} =
          (c.preparing .asIs).convert () greetingPage {} :=
  ⟨by decide +kernel, convert_numericReferences _ _ _ _ (by decide +kernel)⟩

/-- In a style sheet a reference is no reference. -/
theorem styleText_accentedSheet :
    let c : Converter Unit := plain { idSeed := some 7 } 0
    let html := "<style>.é\x7bcolor:red\x7d</style><p>x</p>"
    ((c.preparing .asIs).convert () html {}).1.styleText = some ".é\x7bcolor:red\x7d" ∧
      ((c.preparing .numericReferences).convert () html {}).1.styleText =
        some ".&#233;\x7bcolor:red\x7d" := by
  constructor <;> decide +kernel

end PageBlocks.Converter
