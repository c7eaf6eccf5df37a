import PageBlocks.Proofs.Block.Recursion
import PageBlocks.Proofs.Convert.Alike
import PageBlocks.Proofs.Elementor.Tree

/-!
The ids of a whole conversion for Elementor. The header, the page and the footer are emitted one after the
other and take their ids from one issuer, so the ids of the three trees together are one run of it.
-/
namespace PageBlocks

open Image

variable {σ ρ : Type}

/-! ### The emission of a part -/

theorem emit_elementor {setting : EmissionSetting σ ρ} (h : setting.builder = .elementor)
    (state : EmissionState σ ρ) (blocks : List (Block ImageRef)) :
    let placed := (placeBlocks setting.store setting.placing state.images blocks).1
    let drawn := Elementor.page setting.words setting.config.headingLook state.ids placed
    (emit setting state blocks).1 =
        ⟨.elementor drawn.1, Elementor.metaData setting.config.elementorVersion drawn.1⟩ ∧
      (emit setting state blocks).2.ids = drawn.2 := by
  intro placed drawn
  have hrender : render setting state.ids placed =
      (⟨.elementor drawn.1, Elementor.metaData setting.config.elementorVersion drawn.1⟩, drawn.2) := by
    simp only [render, h]
    rfl
  exact ⟨congrArg Prod.fst hrender, congrArg Prod.snd hrender⟩

/-- A part of a page for Elementor is the tree of its blocks, and its ids are the next ones. -/
theorem emit_drawn {setting : EmissionSetting σ ρ} (h : setting.builder = .elementor)
    (state : EmissionState σ ρ) (blocks : List (Block ImageRef)) :
    let part := emit setting state blocks
    let drawn := state.ids.take setting.words (Elementor.idCount blocks)
    part.1.content.toJson.elementIds.Perm drawn.1 ∧ part.2.ids = drawn.2 ∧
      Elementor.IsTreeOf setting.config.headingLook blocks part.1.content.toJson ∧
      part.1.metaData.lookup "_elementor_data" = some part.1.content.toJson.toText := by
  have hblocks := unplaced_placeBlocks setting.store setting.placing state.images blocks
  have hemit := emit_elementor h state blocks
  extract_lets placed drawn at hemit
  obtain ⟨houtput, hids⟩ := hemit
  have hpage : state.ids.take setting.words (Elementor.idCount blocks) =
      (Elementor.idsOf drawn.1, drawn.2) := by
    rw [← hblocks, Elementor.idCount_map_unplaced]
    exact (Elementor.ids_page ..).symm
  have htree : Elementor.IsTreeOf setting.config.headingLook blocks
      (Elementor.Page.optJson drawn.1) := by
    rw [← hblocks]
    exact Elementor.isTreeOf_page ..
  intro part taken
  simp only [part, taken, houtput, hids, hpage]
  exact ⟨Elementor.elementIds_optJson _, trivial, htree, rfl⟩

theorem emit?_drawn {setting : EmissionSetting σ ρ} (h : setting.builder = .elementor)
    (state : EmissionState σ ρ) (blocks : Option (List (Block ImageRef))) :
    let part := emit? setting state blocks
    let drawn := state.ids.take setting.words (Elementor.idCount (blocks.getD []))
    (Content.optJson (part.1.map (·.content))).elementIds.Perm drawn.1 ∧ part.2.ids = drawn.2 ∧
      Option.Rel (fun blocks content =>
        Elementor.IsTreeOf setting.config.headingLook blocks content.toJson) blocks
        (part.1.map (·.content)) := by
  cases blocks with
  | none => exact ⟨.nil, rfl, .none⟩
  | some blocks =>
    obtain ⟨hids, hrest, htree, -⟩ := emit_drawn h state blocks
    exact ⟨hids, hrest, .some htree⟩

/-! ### The conversion -/

/-- The ids of the elements of a result: those of its header, of its content and of its footer. -/
def Conversion.elementIds (r : Conversion) : List String :=
  (Content.optJson r.header).elementIds ++ r.content.toJson.elementIds ++
    (Content.optJson r.footer).elementIds

/-- The blocks of the parts of a page. -/
structure PartBlocks where
  header : Option (List (Block ImageRef))
  body : List (Block ImageRef)
  footer : Option (List (Block ImageRef))

namespace PartBlocks

/-- How many ids the parts need together. -/
def idCount (p : PartBlocks) : Nat :=
  Elementor.idCount (p.header.getD []) + Elementor.idCount p.body + Elementor.idCount (p.footer.getD [])

/-- The parts of a result are the trees of the blocks. -/
structure AreTreesIn (style : HeadingLook) (p : PartBlocks) (r : Conversion) : Prop where
  header : Option.Rel (fun blocks content => Elementor.IsTreeOf style blocks content.toJson)
    p.header r.header
  body : Elementor.IsTreeOf style p.body r.content.toJson
  footer : Option.Rel (fun blocks content => Elementor.IsTreeOf style blocks content.toJson)
    p.footer r.footer

end PartBlocks

namespace Converter

/-- The blocks of a page that has been read, with what is put before it for Elementor. -/
def elementorBlocks (c : Converter σ) (o : Options) (d : Markup.Document) : PartBlocks :=
  let parts := Page.Parts.of o.extractHeaderFooter (Page.withoutStyles d)
  { header := parts.headerBlocks c.config.stamps
    body := lead .elementor o ++ parts.bodyBlocks c.config.stamps
    footer := parts.footerBlocks c.config.stamps }

/-- The trees of a page that has been read, and the run of ids that they draw together. -/
theorem convertPage_elementor (c : Converter σ) (words : WordSource ρ) (source : ρ) (store : σ)
    (o : Options) (d : Markup.Document) :
    let blocks := c.elementorBlocks o d
    let result := (c.convertPage words source store .elementor o d).1
    result.elementIds.Perm ((IdIssuer.start source).take words blocks.idCount).1 ∧
      blocks.AreTreesIn c.config.headingLook result ∧
      result.metaData.lookup "_elementor_data" = some result.content.toJson.toText := by
  intro blocks result
  have hbuilder : (c.settingFor words .elementor o).builder = .elementor := rfl
  let beginning : EmissionState σ ρ := ⟨.start store, .start source⟩
  let first := emit? (c.settingFor words .elementor o) beginning blocks.header
  let second := emit (c.settingFor words .elementor o) first.2 blocks.body
  let third := emit? (c.settingFor words .elementor o) second.2 blocks.footer
  obtain ⟨hids₁, hnext₁, htree₁⟩ := emit?_drawn hbuilder beginning blocks.header
  obtain ⟨hids₂, hnext₂, htree₂, hmeta⟩ := emit_drawn hbuilder first.2 blocks.body
  obtain ⟨hids₃, -, htree₃⟩ := emit?_drawn hbuilder second.2 blocks.footer
  have hpage := c.convertPage_eq words source store .elementor o d
  have hheader : result.header = first.1.map (·.content) := congrArg (·.1.header) hpage
  have hcontent : result.content = second.1.content := congrArg (·.1.content) hpage
  have hfooter : result.footer = third.1.map (·.content) := congrArg (·.1.footer) hpage
  have hdata : result.metaData = second.1.metaData := congrArg (·.1.metaData) hpage
  refine ⟨?_, ⟨hheader ▸ htree₁, hcontent ▸ htree₂, hfooter ▸ htree₃⟩, ?_⟩
  · -- the run of all ids is cut where a part ends
    rw [Conversion.elementIds, hheader, hcontent, hfooter, PartBlocks.idCount, IdIssuer.take_add,
      IdIssuer.take_add]
    rw [hnext₂, hnext₁] at hids₃
    rw [hnext₁] at hids₂
    exact (hids₁.append hids₂).append hids₃
  · rw [hdata, hcontent]
    exact hmeta

/-- A conversion for Elementor draws the ids of its three trees in one run, one for each element: as long
as the draws of that run have a result, no two elements have the same id, and each id is seven hexadecimal
digits. The trees are those of the blocks of the parts, and the text of the content is kept beside it. -/
theorem elementIds_convertWith (c : Converter σ) (words : WordSource ρ) (source : ρ) (store : σ)
    (html : String) (o : Options) (hvalid : o.fault? = none)
    (hbuilder : o.target.builder c.active = .elementor) :
    let blocks := c.elementorBlocks o (c.config.preparation.read html)
    let result := (c.convertWith words source store html o).1
    result.elementIds.length = blocks.idCount ∧
    (IdIssuer.Supplies words blocks.idCount (.start source) →
      result.elementIds.Nodup ∧ ∀ id ∈ result.elementIds, ElementId.IsWritten id) ∧
    blocks.AreTreesIn c.config.headingLook result ∧
    result.metaData.lookup "_elementor_data" = some result.content.toJson.toText := by
  intro blocks result
  have hresult : result = (c.convertPage words source store .elementor o
      (c.config.preparation.read html)).1 := by
    simp only [result, convertWith, hvalid, hbuilder]
  rw [hresult]
  obtain ⟨hids, htrees⟩ := c.convertPage_elementor words source store o (c.config.preparation.read html)
  have hlength := hids.length_eq.trans (IdIssuer.length_take words _ _)
  refine ⟨hlength, fun hsupplies =>
    ⟨hids.nodup_iff.mpr (IdIssuer.nodup_take words hsupplies), ?_⟩, htrees⟩
  intro id hid
  exact IdIssuer.isWritten_take words hsupplies id (hids.mem_iff.mp hid)

/-- A page with a header, text that stands by itself in its body, and nothing else in its footer. -/
def partedText : String :=
  "<header><h1>A</h1></header><p>b</p>c<img src=d.png><footer>e</footer>"

/-- A converter whose ids are decided by a seed. -/
def seededConverter : Converter Unit := .plain { idSeed := some 42 } 0

def elementorOptions : Options := { target := .fixed .elementor }

theorem elementIds_convert_partedText :
    let page := seededConverter.config.preparation.read partedText
    let blocks := seededConverter.elementorBlocks elementorOptions page
    let result := (seededConverter.convert () partedText elementorOptions).1
    elementorOptions.fault? = none ∧ blocks.idCount = 7 ∧
      IdIssuer.Supplies ChaCha.Stream.next 7 (.ofSeed 42) ∧
      result.elementIds.length = 7 ∧ result.elementIds.Nodup := by
  have hvalid : elementorOptions.fault? = none := by decide +kernel
  have hcount : (seededConverter.elementorBlocks elementorOptions
      (seededConverter.config.preparation.read partedText)).idCount = 7 := by
    simp only [elementorBlocks, Page.Parts.headerBlocks, Page.Parts.bodyBlocks,
      Page.Parts.footerBlocks, Markup.Document.blocks, blocksIn_eq]
    decide +kernel
  -- the seed draws different ids from the start
  have hdistinct : ∀ k < 7, ∀ j < k, WordSource.drawn ChaCha.Stream.next (.ofSeed 42) j ≠
      WordSource.drawn ChaCha.Stream.next (.ofSeed 42) k := by
    decide +kernel
  have hsupplies : IdIssuer.Supplies ChaCha.Stream.next 7 (.ofSeed 42) :=
    IdIssuer.supplies_of_distinct _ (fun _ _ => Std.HashSet.not_mem_empty) hdistinct
  obtain ⟨hlength, hids, -⟩ := elementIds_convertWith seededConverter ChaCha.Stream.next (.ofSeed 42)
    () partedText elementorOptions hvalid rfl
  rw [hcount] at hlength hids
  have hseed : seededConverter.config.idSeed.getD seededConverter.entropy = 42 := rfl
  refine ⟨hvalid, hcount, hsupplies, ?_⟩
  rw [convert, hseed]
  exact ⟨hlength, (hids hsupplies).1⟩

end Converter

end PageBlocks
