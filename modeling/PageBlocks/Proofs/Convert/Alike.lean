import PageBlocks.Convert.Converter
import PageBlocks.Proofs.Image.Placing

/-!
Conversions with different stores. A conversion knows of its store only what the store answers, so two
converters that have the same configuration, the same seed of ids and stores that answer alike give the
same result for every page, and leave the stores alike.
-/
namespace PageBlocks

open Image

variable {σ τ ρ : Type} {R : σ → τ → Prop}

/-! ### Emission -/

/-- The setting with another store. -/
def EmissionSetting.withStore (setting : EmissionSetting σ ρ) (other : Store τ) :
    EmissionSetting τ ρ :=
  ⟨setting.builder, setting.config, other, setting.placing, setting.words, setting.postId⟩

/-- The same ids have been issued and the same failures have come up. -/
def EmissionState.Alike (R : σ → τ → Prop) (state : EmissionState σ ρ)
    (state' : EmissionState τ ρ) : Prop :=
  state.images.Alike R state'.images ∧ state.ids = state'.ids

theorem render_withStore (setting : EmissionSetting σ ρ) (other : Store τ) (ids : IdIssuer ρ)
    (blocks : List (Block Placed)) :
    render (setting.withStore other) ids blocks = render setting ids blocks := by
  -- the page is taken as it is, or the two sides are compared by drawing ids
  rcases hpage : Elementor.page setting.words setting.config.headingLook ids blocks with ⟨page, rest⟩
  cases hbuilder : setting.builder <;>
    simp only [render, EmissionSetting.withStore, hbuilder, hpage]

theorem emit_alike (setting : EmissionSetting σ ρ) {other : Store τ}
    (h : Store.Alike R setting.store other) {state : EmissionState σ ρ} {state' : EmissionState τ ρ}
    (hstate : state.Alike R state') (blocks : List (Block ImageRef)) :
    (emit setting state blocks).1 = (emit (setting.withStore other) state' blocks).1 ∧
      (emit setting state blocks).2.Alike R (emit (setting.withStore other) state' blocks).2 := by
  obtain ⟨himages, hids⟩ := hstate
  obtain ⟨hplaced, hnext⟩ := h.placeBlocks himages setting.placing blocks
  have hrender : render setting state.ids
        (placeBlocks setting.store setting.placing state.images blocks).1 =
      render (setting.withStore other) state'.ids
        (placeBlocks other setting.placing state'.images blocks).1 := by
    rw [render_withStore, hplaced, hids]
  exact ⟨congrArg Prod.fst hrender, hnext, congrArg Prod.snd hrender⟩

theorem emit?_alike (setting : EmissionSetting σ ρ) {other : Store τ}
    (h : Store.Alike R setting.store other) {state : EmissionState σ ρ} {state' : EmissionState τ ρ}
    (hstate : state.Alike R state') (blocks : Option (List (Block ImageRef))) :
    (emit? setting state blocks).1 = (emit? (setting.withStore other) state' blocks).1 ∧
      (emit? setting state blocks).2.Alike R (emit? (setting.withStore other) state' blocks).2 := by
  cases blocks with
  | none => exact ⟨rfl, hstate⟩
  | some blocks =>
    obtain ⟨houtput, hnext⟩ := emit_alike setting h hstate blocks
    exact ⟨congrArg some houtput, hnext⟩

namespace Converter

/-! ### The parts of a page in order -/

/-- What stays the same while a converter emits a page. -/
def settingFor (c : Converter σ) (words : WordSource ρ) (builder : Builder) (o : Options) :
    EmissionSetting σ ρ :=
  ⟨builder, c.config, c.store, ⟨o.uploadImages, o.baseUrl⟩, words, o.postId⟩

/-- A conversion is the emission of the header, then of what is put before the page and the body, then
of the footer. -/
theorem convertPage_eq (c : Converter σ) (words : WordSource ρ) (source : ρ) (store : σ)
    (builder : Builder) (o : Options) (d : Markup.Document) :
    let parts := Page.Parts.of o.extractHeaderFooter (Page.withoutStyles d)
    let setting := c.settingFor words builder o
    let header := emit? setting ⟨.start store, .start source⟩ (parts.headerBlocks c.config.stamps)
    let body := emit setting header.2 (lead builder o ++ parts.bodyBlocks c.config.stamps)
    let footer := emit? setting body.2 (parts.footerBlocks c.config.stamps)
    c.convertPage words source store builder o d =
      ({ builder
         content := body.1.content
         metaData := body.1.metaData
         header := header.1.map (·.content)
         footer := footer.1.map (·.content)
         styleText := styleText o (Page.styleRules d)
         imageFailures := footer.2.images.failures
         error := imageError o footer.2.images.failures }, footer.2.images.store) := by
  simp only [settingFor]
  unfold convertPage
  -- no more may be unfolded here: the emissions themselves must not be run
  with_reducible rfl

/-! ### Conversion -/

/-- The converters differ in nothing but their stores, which answer alike. -/
structure Alike (R : σ → τ → Prop) (c : Converter σ) (c' : Converter τ) : Prop where
  config : c'.config = c.config
  active : c'.active = c.active
  seed : c'.config.idSeed.getD c'.entropy = c.config.idSeed.getD c.entropy
  store : Store.Alike R c.store c'.store

variable {c : Converter σ} {c' : Converter τ} {s : σ} {t : τ}

theorem Alike.convertPage (h : Alike R c c') (hst : R s t) (words : WordSource ρ) (source : ρ)
    (builder : Builder) (o : Options) (d : Markup.Document) :
    (c.convertPage words source s builder o d).1 = (c'.convertPage words source t builder o d).1 ∧
      R (c.convertPage words source s builder o d).2
        (c'.convertPage words source t builder o d).2 := by
  have hsetting : c'.settingFor words builder o =
      (c.settingFor words builder o).withStore c'.store := by
    simp only [settingFor, EmissionSetting.withStore, h.config]
  have hbeginning : EmissionState.Alike R (⟨.start s, .start source⟩ : EmissionState σ ρ)
      ⟨.start t, .start source⟩ := ⟨⟨hst, rfl⟩, rfl⟩
  let parts := Page.Parts.of o.extractHeaderFooter (Page.withoutStyles d)
  obtain ⟨hheader, hafter⟩ :=
    emit?_alike (c.settingFor words builder o) h.store hbeginning
      (parts.headerBlocks c.config.stamps)
  obtain ⟨hbody, hafter⟩ := emit_alike (c.settingFor words builder o) h.store hafter
    (lead builder o ++ parts.bodyBlocks c.config.stamps)
  obtain ⟨hfooter, hafter⟩ :=
    emit?_alike (c.settingFor words builder o) h.store hafter
      (parts.footerBlocks c.config.stamps)
  have hfailures := congrArg List.reverse hafter.1.2
  rw [convertPage_eq, convertPage_eq, hsetting, h.config]
  refine ⟨?_, hafter.1.1⟩
  simp only [Progress.failures]
  rw [hheader, hbody, hfooter, hfailures]

theorem Alike.convert (h : Alike R c c') (hst : R s t) (html : String) (o : Options) :
    (c.convert s html o).1 = (c'.convert t html o).1 ∧
      R (c.convert s html o).2 (c'.convert t html o).2 := by
  unfold Converter.convert convertWith
  rw [h.active, h.seed, h.config]
  split
  · exact ⟨rfl, hst⟩
  · exact h.convertPage hst _ _ _ o _

/-- Where the stores answer alike as long as the first is in states of a sort, a session with the first
converter gives for each page what the second one gives for the page alone, in any state of its store. -/
theorem Alike.convertAll {Inv : σ → Prop} (h : Alike (fun s _ => Inv s) c c') (hs : Inv s) (t : τ)
    (pages : List (String × Options)) :
    (c.convertAll s pages).1 = pages.map fun page => (c'.convert t page.1 page.2).1 := by
  induction pages generalizing s with
  | nil => rfl
  | cons page pages ih =>
    obtain ⟨hresult, hnext⟩ := h.convert (t := t) hs page.1 page.2
    rw [List.map_cons, ← ih hnext, ← hresult]
    rfl

end Converter

end PageBlocks
