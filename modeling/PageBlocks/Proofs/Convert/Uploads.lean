import PageBlocks.Proofs.Block.Recursion
import PageBlocks.Proofs.Convert.Alike

/-!
The images that a conversion sends to the store. Emission asks for the images of its blocks and for
nothing else, and the parts of a page are emitted one after the other, so a conversion is one run of
requests: those of the header, of the featured image where it is put before the page, of the body and of
the footer. The failures on record are the refusals of that run.
-/
namespace PageBlocks

open Image

variable {σ ρ : Type}

/-! ### The calls of emission -/

theorem emit_images (setting : EmissionSetting σ ρ) (state : EmissionState σ ρ)
    (blocks : List (Block ImageRef)) :
    (emit setting state blocks).2.images =
      state.images.after (setting.store.serve state.images.store
        (setting.placing.requests (imagesOf blocks))) :=
  congrArg Prod.snd (placeBlocks_eq setting.store setting.placing state.images blocks)

theorem emit?_images (setting : EmissionSetting σ ρ) (state : EmissionState σ ρ)
    (blocks : Option (List (Block ImageRef))) :
    (emit? setting state blocks).2.images =
      state.images.after (setting.store.serve state.images.store
        (setting.placing.requests (imagesOf (blocks.getD [])))) := by
  cases blocks with
  | none => rfl
  | some blocks => exact emit_images setting state blocks

namespace Converter

/-- The images of a page in the order of its parts: those of the header, the featured image where it is
put before the page, those of the body and those of the footer. -/
def imagesInOrder (stamps : Stamps) (builder : Builder) (o : Options) (parts : Page.Parts) :
    List ImageRef :=
  imagesOf ((parts.headerBlocks stamps).getD []) ++
    (if builder.beginsWithTitle && !o.skipAutoPrepend then o.featuredImage.toList else []) ++
    imagesOf (parts.bodyBlocks stamps) ++
    imagesOf ((parts.footerBlocks stamps).getD [])

theorem imagesOf_lead (builder : Builder) (o : Options) :
    imagesOf (lead builder o) =
      if builder.beginsWithTitle && !o.skipAutoPrepend then o.featuredImage.toList else [] := by
  unfold lead
  split
  · rw [imagesOf_append]
    cases hfeatured : o.featuredImage <;> cases htitle : o.pageTitle.bind Text.trimmed? <;>
      simp [imagesOf, titleBlock?, htitle, Block.image?]
  · rfl

/-- A conversion leaves the store and the record of failures as the requests for the images of the page,
made in order, leave them. -/
theorem convertPage_images (c : Converter σ) (words : WordSource ρ) (source : ρ) (store : σ)
    (builder : Builder) (o : Options) (d : Markup.Document) :
    let parts := Page.Parts.of o.extractHeaderFooter (Page.withoutStyles d)
    let served := c.store.serve store
      (Placing.requests ⟨o.uploadImages, o.baseUrl⟩ (imagesInOrder c.config.stamps builder o parts))
    (c.convertPage words source store builder o d).2 = served.2 ∧
      (c.convertPage words source store builder o d).1.imageFailures = failuresOf served.1 := by
  intro parts served
  have hpage := c.convertPage_eq words source store builder o d
  extract_lets setting header body footer at hpage
  have hlast : footer.2.images = (Progress.start store).after served := by
    rw [emit?_images, emit_images, emit?_images]
    simp only [Progress.store_after, Progress.after_after]
    rw [← Placing.requests_append, ← Placing.requests_append, imagesOf_append, imagesOf_lead,
      ← List.append_assoc]
    rfl
  rw [hpage, hlast]
  exact ⟨rfl, Progress.failures_after ..⟩

/-- The converter with a store that writes down the calls that reach it. -/
def recorded (c : Converter σ) : Converter (σ × List Call) :=
  ⟨c.config, c.store.recorded, c.active, c.entropy⟩

theorem recorded_alike (c : Converter σ) : Alike (fun s t => s.1 = t) c.recorded c :=
  ⟨rfl, rfl, rfl, c.store.recorded_alike⟩

/-- A conversion sends the images of the page that are not inline to the store, in the order of the
parts of the page and once each, and none if images are not to be uploaded. The failures on record are
those of these calls that were refused. To write the calls down changes nothing. -/
theorem calls_convert (c : Converter σ) (s : σ) (html : String) (o : Options)
    (hvalid : o.fault? = none) :
    let parts := Page.Parts.of o.extractHeaderFooter
      (Page.withoutStyles (c.config.preparation.read html))
    let images := imagesInOrder c.config.stamps (o.target.builder c.active) o parts
    let requests : List UploadRequest :=
      if o.uploadImages then
        (images.filter fun i => !isInline i.src).map fun i =>
          ⟨resolveSource i.src o.baseUrl, i.alt, i.title⟩
      else []
    let run := c.recorded.convert (s, []) html o
    let calls := run.2.2
    calls.map (·.request) = requests ∧
    calls = (c.store.serve s requests).1 ∧
    run.1.imageFailures = calls.filterMap Call.failure? ∧
    run.1 = (c.convert s html o).1 ∧
    run.2.1 = (c.convert s html o).2 := by
  intro parts images requests run calls
  let seeded := ChaCha.Stream.ofSeed (c.config.idSeed.getD c.entropy)
  have hrun : run = c.recorded.convertPage ChaCha.Stream.next seeded (s, [])
      (o.target.builder c.active) o (c.config.preparation.read html) := by
    simp only [run, convert, convertWith, hvalid]
    rfl
  have hrequests : Placing.requests ⟨o.uploadImages, o.baseUrl⟩ images = requests :=
    Placing.requests_eq ..
  obtain ⟨hstate, hfailures⟩ := c.recorded.convertPage_images ChaCha.Stream.next seeded (s, [])
    (o.target.builder c.active) o (c.config.preparation.read html)
  have hserved : c.recorded.store.serve (s, [])
        (Placing.requests ⟨o.uploadImages, o.baseUrl⟩ images) =
      ((c.store.serve s requests).1, (c.store.serve s requests).2, (c.store.serve s requests).1) := by
    rw [hrequests]
    exact c.store.serve_recorded s [] requests
  have hcalls : calls = (c.store.serve s requests).1 :=
    calc
      calls = (c.recorded.convertPage ChaCha.Stream.next seeded (s, [])
          (o.target.builder c.active) o (c.config.preparation.read html)).2.2 := congrArg (·.2.2) hrun
      _ = (c.store.serve s requests).1 := congrArg Prod.snd (hstate.trans (congrArg Prod.snd hserved))
  obtain ⟨hresult, hstore⟩ := c.recorded_alike.convert (s := (s, [])) (t := s) rfl html o
  refine ⟨?_, hcalls, ?_, hresult, hstore⟩
  · rw [hcalls, Store.requests_serve]
  · rw [hrun, hfailures, hcalls]
    exact congrArg (fun served => failuresOf served.1) hserved

/-- A page with an image in its header, two in its body, of which one is inline, and one in its footer. -/
def framedText : String :=
  "<header><img src=a.png alt=A></header><img src=' DATA:image/png,x'><img src=/b.png title=B>" ++
    "<footer><img src=http://x.test/c.png></footer>"

/-- Options with a featured image for a builder that puts it before the page. -/
def featuredOptions : Options :=
  { target := .fixed .divi, featuredImage := some ⟨"f.png", none, none⟩,
    baseUrl := some "http://s.test/p/" }

/-- A converter whose store refuses every other image. -/
def wearyConverter : Converter Nat where
  config := {}
  store n _ := (if n % 2 = 0 then .stored ⟨7, "http://cdn.test/"⟩ else .refused "busy", n + 1)
  active := none
  entropy := 0

theorem calls_convert_framedText :
    featuredOptions.fault? = none ∧
    let run := wearyConverter.recorded.convert (0, []) framedText featuredOptions
    run.2.2.map (·.request) =
      [⟨"http://s.test/p/a.png", some "A", none⟩, ⟨"http://s.test/p/f.png", none, none⟩,
        ⟨"http://s.test/b.png", none, some "B"⟩, ⟨"http://x.test/c.png", none, none⟩] ∧
    run.1.imageFailures = [⟨"http://s.test/p/f.png", "busy"⟩, ⟨"http://x.test/c.png", "busy"⟩] := by
  have hvalid : featuredOptions.fault? = none := by decide +kernel
  obtain ⟨hrequests, hcalls, hfailures, -⟩ :=
    calls_convert wearyConverter 0 framedText featuredOptions hvalid
  have himages : ((imagesInOrder wearyConverter.config.stamps .divi featuredOptions
      (Page.Parts.of true (Page.withoutStyles (wearyConverter.config.preparation.read framedText)))
        ).filter fun i => !isInline i.src).map (fun i =>
          (⟨resolveSource i.src (some "http://s.test/p/"), i.alt, i.title⟩ : UploadRequest)) =
      [⟨"http://s.test/p/a.png", some "A", none⟩, ⟨"http://s.test/p/f.png", none, none⟩,
        ⟨"http://s.test/b.png", none, some "B"⟩, ⟨"http://x.test/c.png", none, none⟩] := by
    simp only [imagesInOrder, Page.Parts.headerBlocks, Page.Parts.footerBlocks,
      Page.Parts.bodyBlocks, Markup.Document.blocks, blocksIn_eq]
    decide +kernel
  refine ⟨hvalid, hrequests.trans himages, hfailures.trans ?_⟩
  rw [hcalls]
  exact (congrArg (fun qs => failuresOf (wearyConverter.store.serve 0 qs).1) himages).trans
    (by decide +kernel)

end Converter

end PageBlocks
