import PageBlocks.Proofs.Convert.Uploads

/-!
Failures. What is asked of a converter either is refused before anything is done, and then the payload is
empty and the store is not called, or it is converted as if no image were required. Only when the page is
complete is it said whether an image that was required has failed, and which one failed first.
-/
namespace PageBlocks

open Image

variable {σ ρ : Type}

/-- What can be asked of a converter: a text, a page with its charset, a request whose builder is a name,
or the payload of an older caller. -/
inductive Submission where
  | text (html : String) (o : Options)
  | document (page : Page.Source) (o : Options)
  | request (q : Request)
  | post (p : PostPayload)

/-- The options where no image is required. -/
def Options.lenient (o : Options) : Options := { o with requireImages := false }

namespace Submission

/-- The text and the options that a submission stands for, or the name of a builder that is unknown. -/
def task : Submission → Except String (String × Options)
  | text html o => .ok (html, o)
  | document page o => .ok (page.html, o)
  | request q =>
    match Target.ofName? q.builder with
    | some target => .ok (q.html, { q.options with target })
    | none => .error q.builder
  | post p => .ok (p.postText, p.options)

/-- Why a submission is refused, if so, and the builder whose empty payload is given back. -/
def refusal? (active : Option Builder) (x : Submission) : Option (Builder × ConversionError) :=
  match x.task with
  | .ok (_, o) => o.fault?.map fun fault => (o.target.builder active, .invalidOptions fault)
  | .error name => some (.gutenberg, .unsupportedBuilder name)

/-- The submission where no image is required. Older callers never require any. -/
def lenient : Submission → Submission
  | text html o => text html o.lenient
  | document page o => document page o.lenient
  | request q => request { q with options := q.options.lenient }
  | post p => post p

def requiresImages : Submission → Bool
  | text _ o | document _ o => o.requireImages
  | request q => q.options.requireImages
  | post _ => false

end Submission

namespace Converter

/-- Do what is asked. -/
def submit (c : Converter σ) (s : σ) : Submission → Conversion × σ
  | .text html o => c.convert s html o
  | .document page o => c.convert s page.html o
  | .request q => c.fulfil s q
  | .post p => c.convertPost s p

/-! ### Submissions and their texts -/

theorem submit_eq (c : Converter σ) (s : σ) (x : Submission) :
    c.submit s x =
      match x.task with
      | .ok (html, o) => c.convert s html o
      | .error name => (.failed .gutenberg (.unsupportedBuilder name), s) := by
  cases x with
  | request q =>
    rw [submit, fulfil]
    simp only [Submission.task]
    cases Target.ofName? q.builder <;> rfl
  | text html o => rfl
  | document page o => rfl
  | post p => rfl

end Converter

/-- The lenient submission stands for the same text with lenient options. -/
theorem Submission.task_lenient (x : Submission) :
    x.lenient.task = x.task.map fun (html, o) => (html, o.lenient) := by
  cases x with
  | request q =>
    simp only [lenient, task]
    cases Target.ofName? q.builder <;> rfl
  | text html o => rfl
  | document page o => rfl
  | post p => rfl

theorem Submission.requiresImages_eq {x : Submission} {html : String} {o : Options}
    (h : x.task = .ok (html, o)) : x.requiresImages = o.requireImages := by
  cases x with
  | request q =>
    simp only [task] at h
    cases htarget : Target.ofName? q.builder with
    | none => simp [htarget] at h
    | some target =>
      simp only [htarget, Except.ok.injEq, Prod.mk.injEq] at h
      rw [← h.2, requiresImages]
  | text html' o' =>
    cases h
    rfl
  | document page o' =>
    cases h
    rfl
  | post p =>
    cases h
    rfl

/-- Options that can be honoured can be honoured where no image is required. -/
theorem Options.fault?_lenient {o : Options} (h : o.fault? = none) : o.lenient.fault? = none := by
  unfold fault? at h ⊢
  split at h
  · cases h
  · exact h

namespace Converter

/-! ### Required images -/

/-- That images are required shows in the error of a result and nowhere else. -/
theorem convertPage_lenient (c : Converter σ) (words : WordSource ρ) (source : ρ) (store : σ)
    (builder : Builder) (o : Options) (d : Markup.Document) :
    let result := c.convertPage words source store builder o d
    let lenient := c.convertPage words source store builder o.lenient d
    result = ({ lenient.1 with error := imageError o result.1.imageFailures }, lenient.2) ∧
      lenient.1.error = none := by
  intro result lenient
  have hresult : result = _ := c.convertPage_eq words source store builder o d
  have hlenient : lenient = _ := c.convertPage_eq words source store builder o.lenient d
  rw [hresult, hlenient]
  exact ⟨rfl, rfl⟩

/-- The failures on record are those of the calls that are written down. -/
theorem failures_recorded (c : Converter σ) (words : WordSource ρ) (source : ρ) (s : σ)
    (builder : Builder) (o : Options) (d : Markup.Document) :
    let run := c.recorded.convertPage words source (s, []) builder o d
    run.1.imageFailures = failuresOf run.2.2 := by
  intro run
  obtain ⟨hstate, hfailures⟩ := c.recorded.convertPage_images words source (s, []) builder o d
  have hstore : c.recorded.store = c.store.recorded := rfl
  rw [hfailures, hstate, hstore, Store.serve_recorded, List.nil_append]

end Converter

/-- An error tells the address and the reason of the first call that was refused. -/
def ConversionError.NamesFirstRefusal (e : ConversionError) (calls : List Call) : Prop :=
  ∃ before call after reason, calls = before ++ call :: after ∧
    (∀ earlier ∈ before, earlier.failure? = none) ∧ call.outcome = .refused reason ∧
    e = .image call.request.url reason

theorem Image.Call.failure?_eq_some_iff {call : Call} {f : Failure} :
    call.failure? = some f ↔ ∃ reason, call.outcome = .refused reason ∧
      f = ⟨call.request.url, reason⟩ := by
  unfold failure?
  cases houtcome : call.outcome with
  | stored a => simp
  | refused reason => simp [eq_comm]

namespace Converter

theorem imageError_eq_some_iff {o : Options} {calls : List Call} {e : ConversionError} :
    imageError o (failuresOf calls) = some e ↔
      o.requireImages = true ∧ e.NamesFirstRefusal calls := by
  cases hrequire : o.requireImages with
  | false => simp [imageError, hrequire]
  | true =>
    simp only [imageError, hrequire, if_true, failuresOf, List.head?_filterMap,
      Option.map_eq_some_iff, List.findSome?_eq_some_iff, true_and]
    constructor
    · rintro ⟨f, ⟨before, call, after, rfl, hrefused, hbefore⟩, rfl⟩
      obtain ⟨reason, houtcome, rfl⟩ := Call.failure?_eq_some_iff.mp hrefused
      exact ⟨before, call, after, reason, rfl, hbefore, houtcome, rfl⟩
    · rintro ⟨before, call, after, reason, rfl, hbefore, houtcome, rfl⟩
      have hrefused : call.failure? = some ⟨call.request.url, reason⟩ :=
        Call.failure?_eq_some_iff.mpr ⟨reason, houtcome, rfl⟩
      exact ⟨_, ⟨before, call, after, rfl, hrefused, hbefore⟩, rfl⟩

theorem isSome_imageError_iff {o : Options} {calls : List Call} :
    (imageError o (failuresOf calls)).isSome = true ↔
      o.requireImages = true ∧ ∃ call ∈ calls, call.failure? ≠ none := by
  cases hrequire : o.requireImages with
  | false => simp [imageError, hrequire]
  | true =>
    simp [imageError, hrequire, failuresOf, List.head?_filterMap, Option.isSome_iff_ne_none]

/-! ### Whole conversions -/

/-- To write the calls down changes nothing. -/
theorem recorded_submit (c : Converter σ) (s : σ) (x : Submission) :
    (c.recorded.submit (s, []) x).1 = (c.submit s x).1 ∧
      (c.recorded.submit (s, []) x).2.1 = (c.submit s x).2 := by
  rw [submit_eq, submit_eq]
  cases x.task with
  | ok page => exact c.recorded_alike.convert rfl page.1 page.2
  | error name => exact ⟨rfl, rfl⟩

/-- Options that cannot be honoured are told before the text is read. -/
theorem convert_of_fault (c : Converter σ) (s : σ) (html : String) {o : Options}
    {fault : OptionsFault} (h : o.fault? = some fault) :
    c.convert s html o = (.failed (o.target.builder c.active) (.invalidOptions fault), s) := by
  simp only [convert, convertWith, h]

theorem convert_of_valid (c : Converter σ) (s : σ) (html : String) {o : Options}
    (h : o.fault? = none) :
    c.convert s html o = c.convertPage ChaCha.Stream.next
      (.ofSeed (c.config.idSeed.getD c.entropy)) s (o.target.builder c.active) o
      (c.config.preparation.read html) := by
  simp only [convert, convertWith, h]

/-- Where the options can be honoured, only the error tells whether images are required. -/
theorem convert_lenient (c : Converter σ) (s : σ) (html : String) {o : Options}
    (h : o.fault? = none) :
    let calls := (c.recorded.convert (s, []) html o).2.2
    let lenient := c.convert s html o.lenient
    c.convert s html o = ({ lenient.1 with error := imageError o (failuresOf calls) }, lenient.2) ∧
      lenient.1.error = none := by
  intro calls lenient
  let source := ChaCha.Stream.ofSeed (c.config.idSeed.getD c.entropy)
  let builder := o.target.builder c.active
  let page := c.config.preparation.read html
  have hcalls : calls =
      (c.recorded.convertPage ChaCha.Stream.next source (s, []) builder o page).2.2 :=
    congrArg (·.2.2) (c.recorded.convert_of_valid (s, []) html h)
  have hlenient : lenient = c.convertPage ChaCha.Stream.next source s builder o.lenient page :=
    c.convert_of_valid s html (Options.fault?_lenient h)
  have hfailures : (c.convertPage ChaCha.Stream.next source s builder o page).1.imageFailures =
      failuresOf calls := by
    obtain ⟨halike, -⟩ := c.recorded_alike.convertPage (s := (s, [])) (t := s) rfl
      ChaCha.Stream.next source builder o page
    rw [hcalls, ← c.failures_recorded, halike]
  obtain ⟨hresult, herror⟩ := c.convertPage_lenient ChaCha.Stream.next source s builder o page
  rw [hlenient, c.convert_of_valid s html h, ← hfailures]
  exact ⟨hresult, herror⟩

/-- What is asked of a converter is refused or done as if no image were required. If it is refused, for
its options or for the name of its builder, the payload is empty and the store is not called. If not, the
result has an error exactly if images are required and some call was refused, and then the error tells of
the first such call; all else in the result, and the state of the store, are as they would be otherwise. -/
theorem submit_failures (c : Converter σ) (s : σ) (x : Submission) :
    let run := c.recorded.submit (s, []) x
    let calls := run.2.2
    let result := (c.submit s x).1
    let lenient := c.submit s x.lenient
    run.1 = result ∧ run.2.1 = (c.submit s x).2 ∧
    match x.refusal? c.active with
    | some (builder, error) => c.submit s x = (.failed builder error, s) ∧ calls = []
    | none =>
      c.submit s x = ({ lenient.1 with error := result.error }, lenient.2) ∧
      lenient.1.error = none ∧
      (result.error.isSome = true ↔
        x.requiresImages = true ∧ ∃ call ∈ calls, call.failure? ≠ none) ∧
      ∀ e, result.error = some e ↔ x.requiresImages = true ∧ e.NamesFirstRefusal calls := by
  intro run calls result lenient
  obtain ⟨hresult, hstore⟩ := c.recorded_submit s x
  refine ⟨hresult, hstore, ?_⟩
  cases htask : x.task with
  | error name =>
    have hrefusal : x.refusal? c.active = some (.gutenberg, .unsupportedBuilder name) := by
      rw [Submission.refusal?, htask]
    have hsubmit := c.submit_eq s x
    have hrun := c.recorded.submit_eq (s, []) x
    rw [htask] at hsubmit hrun
    rw [hrefusal]
    exact ⟨hsubmit, congrArg (·.2.2) hrun⟩
  | ok page =>
    obtain ⟨html, o⟩ := page
    have hsubmit : c.submit s x = c.convert s html o := by rw [submit_eq, htask]
    have hrun : run = c.recorded.convert (s, []) html o := by
      simp only [run, submit_eq, htask]
    cases hfault : o.fault? with
    | some fault =>
      have hrefusal : x.refusal? c.active =
          some (o.target.builder c.active, .invalidOptions fault) := by
        rw [Submission.refusal?, htask]
        simp only [hfault, Option.map_some]
      rw [hrefusal]
      refine ⟨hsubmit.trans (c.convert_of_fault s html hfault), ?_⟩
      rw [show calls = run.2.2 from rfl, hrun, c.recorded.convert_of_fault (s, []) html hfault]
    | none =>
      have hrefusal : x.refusal? c.active = none := by
        rw [Submission.refusal?, htask]
        simp only [hfault, Option.map_none]
      have hlenient : lenient = c.convert s html o.lenient := by
        simp only [lenient, submit_eq, Submission.task_lenient, htask, Except.map]
      have hrequires := Submission.requiresImages_eq htask
      obtain ⟨hconvert, herror⟩ := c.convert_lenient s html hfault
      rw [← hrun, ← hlenient] at hconvert
      rw [← hlenient] at herror
      have hnamed : result.error = imageError o (failuresOf calls) := by
        rw [show result = (c.submit s x).1 from rfl, hsubmit, hconvert]
      rw [hrefusal, hnamed, hrequires]
      exact ⟨hsubmit.trans hconvert, herror, isSome_imageError_iff, fun e => imageError_eq_some_iff⟩

end Converter

end PageBlocks
