import Mathlib.Data.List.Forall2
import PageBlocks.Proofs.Image.Calls

/-!
Placing images and the calls that it makes. Whatever the store, the images of a list of blocks ask for
their addresses once each and in order; the failures on record are the refusals among these calls, and
each image takes the outcome of its own call. Stores that answer alike place images alike.
-/
namespace PageBlocks.Image

variable {σ τ : Type}

/-- The images of blocks, in order. -/
def imagesOf (bs : List (Block ImageRef)) : List ImageRef := bs.filterMap Block.image?

/-- What is asked of the store for images, in order. -/
def Placing.requests (how : Placing) (is : List ImageRef) : List UploadRequest :=
  is.filterMap how.request?

/-- The failures that calls amount to, in order. -/
def failuresOf (calls : List Call) : List Failure := calls.filterMap Call.failure?

/-- An image with the address to use, where its request had this outcome; without a request, and after
a refusal, it keeps its own. -/
def settle (i : ImageRef) : Option Outcome → Placed
  | some (.stored a) => ⟨i, a.url, some a.id⟩
  | some (.refused _) | none => ⟨i, i.src, none⟩

/-- Blocks with their images placed, where each image that asks for its address takes the next call. -/
def settleAll (how : Placing) : List Call → List (Block ImageRef) → List (Block Placed)
  | _, [] => []
  | calls, .image i :: rest =>
    match how.request? i, calls with
    | some _, call :: calls => .image (settle i (some call.outcome)) :: settleAll how calls rest
    | _, calls => .image (settle i none) :: settleAll how calls rest
  | calls, .heading level text anchor :: rest =>
    .heading level text anchor :: settleAll how calls rest
  | calls, .captured kind html :: rest => .captured kind html :: settleAll how calls rest
  | calls, .embed markup :: rest => .embed markup :: settleAll how calls rest
  | calls, .plainText value :: rest => .plainText value :: settleAll how calls rest

/-! ### Requests -/

theorem imagesOf_append (bs cs : List (Block ImageRef)) :
    imagesOf (bs ++ cs) = imagesOf bs ++ imagesOf cs := List.filterMap_append

theorem Placing.requests_append (how : Placing) (is js : List ImageRef) :
    how.requests (is ++ js) = how.requests is ++ how.requests js := List.filterMap_append

/-- The images that are not inline are asked for, if images are to be uploaded at all. -/
theorem Placing.requests_eq (how : Placing) (is : List ImageRef) :
    how.requests is =
      if how.upload then
        (is.filter fun i => !isInline i.src).map fun i =>
          ⟨resolveSource i.src how.baseUrl, i.alt, i.title⟩
      else [] := by
  induction is with
  | nil => simp [requests]
  | cons i is ih =>
    rw [requests] at ih ⊢
    rw [List.filterMap_cons, request?]
    cases hupload : how.upload with
    | false => simpa [hupload] using ih
    | true => cases hinline : isInline i.src <;> simpa [hupload, hinline] using ih

/-! ### Progress -/

/-- What has come of placing after further calls. -/
def Progress.after (p : Progress σ) (served : List Call × σ) : Progress σ :=
  ⟨served.2, (failuresOf served.1).reverse ++ p.recent⟩

theorem failuresOf_append (calls more : List Call) :
    failuresOf (calls ++ more) = failuresOf calls ++ failuresOf more := List.filterMap_append

theorem Progress.failures_after (p : Progress σ) (served : List Call × σ) :
    (p.after served).failures = p.failures ++ failuresOf served.1 := by
  simp [failures, after]

theorem Progress.store_after (p : Progress σ) (served : List Call × σ) :
    (p.after served).store = served.2 := rfl

theorem Progress.after_nil (p : Progress σ) : p.after ([], p.store) = p := rfl

/-- Calls made in two goes are as good as made in one. -/
theorem Progress.after_after (store : Store σ) (p : Progress σ) (qs rest : List UploadRequest) :
    (p.after (store.serve p.store qs)).after (store.serve (store.serve p.store qs).2 rest) =
      p.after (store.serve p.store (qs ++ rest)) := by
  simp [after, Store.serve_append, failuresOf_append]

theorem place_eq (store : Store σ) (how : Placing) (p : Progress σ) (i : ImageRef) :
    place store how p i =
      (settle i ((how.request? i).map fun q => (store p.store q).1),
        p.after (store.serve p.store (how.requests [i]))) := by
  cases hrequest : how.request? i with
  | none => simp [place, Placing.requests, hrequest, settle, Progress.after_nil]
  | some q =>
    cases houtcome : (store p.store q).1 <;>
      simp [place, Placing.requests, hrequest, settle, Progress.after, failuresOf, Call.failure?,
        Store.serve, houtcome]

/-- Blocks are placed behind those that are done: each image that asks takes the next of the calls that
serving all requests in order would make. -/
theorem placeFrom_eq (store : Store σ) (how : Placing) (done : List (Block Placed)) (p : Progress σ)
    (bs : List (Block ImageRef)) :
    placeFrom store how done p bs =
      (done.reverse ++ settleAll how (store.serve p.store (how.requests (imagesOf bs))).1 bs,
        p.after (store.serve p.store (how.requests (imagesOf bs)))) := by
  induction bs generalizing done p with
  | nil => simp [placeFrom, imagesOf, Placing.requests, settleAll, Progress.after_nil]
  | cons b bs ih =>
    cases b with
    | image i =>
      have himages : how.requests (imagesOf (.image i :: bs)) =
          how.requests [i] ++ how.requests (imagesOf bs) := by
        rw [← Placing.requests_append]
        rfl
      have hstep : placeFrom store how done p (.image i :: bs) =
          placeFrom store how (.image (place store how p i).1 :: done) (place store how p i).2 bs := rfl
      rw [hstep, place_eq, ih, himages, ← Progress.after_after]
      refine Prod.ext ?_ rfl
      cases hrequest : how.request? i with
      | none => simp [settleAll, hrequest, Placing.requests, Progress.after_nil]
      | some q => simp [settleAll, hrequest, Placing.requests, Progress.after, Store.serve]
    | _ =>
      refine (ih _ p).trans ?_
      rw [List.reverse_cons, List.append_assoc]
      rfl

theorem placeBlocks_eq (store : Store σ) (how : Placing) (p : Progress σ)
    (bs : List (Block ImageRef)) :
    placeBlocks store how p bs =
      (settleAll how (store.serve p.store (how.requests (imagesOf bs))).1 bs,
        p.after (store.serve p.store (how.requests (imagesOf bs)))) :=
  placeFrom_eq store how [] p bs

/-- Blocks are placed one by one. -/
theorem placeFrom_forall₂ (store : Store σ) (how : Placing) (bs : List (Block ImageRef))
    (done : List (Block Placed)) (p : Progress σ) :
    ∃ placed, (placeFrom store how done p bs).1 = done.reverse ++ placed ∧
      List.Forall₂ (fun b c => ∃ q, (placeBlock store how q b).1 = c) bs placed := by
  induction bs generalizing done p with
  | nil => exact ⟨[], (List.append_nil _).symm, .nil⟩
  | cons b bs ih =>
    obtain ⟨placed, hplaced, hall⟩ :=
      ih ((placeBlock store how p b).1 :: done) (placeBlock store how p b).2
    refine ⟨(placeBlock store how p b).1 :: placed, ?_, .cons ⟨p, rfl⟩ hall⟩
    rw [placeFrom, hplaced, List.reverse_cons, List.append_assoc, List.singleton_append]

/-! ### What blocks were before -/

/-- A block before its image was placed. -/
def unplaced : Block Placed → Block ImageRef
  | .heading level text anchor => .heading level text anchor
  | .image i => .image i.source
  | .captured kind html => .captured kind html
  | .embed markup => .embed markup
  | .plainText value => .plainText value

theorem source_place (store : Store σ) (how : Placing) (p : Progress σ) (i : ImageRef) :
    (place store how p i).1.source = i := by
  cases hrequest : how.request? i with
  | none => simp [place, hrequest]
  | some q => cases houtcome : (store p.store q).1 <;> simp [place, hrequest, houtcome]

theorem unplaced_placeBlock (store : Store σ) (how : Placing) (p : Progress σ) (b : Block ImageRef) :
    unplaced (placeBlock store how p b).1 = b := by
  cases b with
  | image i => exact congrArg Block.image (source_place store how p i)
  | _ => rfl

/-- To place images leaves the blocks what they are. -/
theorem unplaced_placeBlocks (store : Store σ) (how : Placing) (p : Progress σ)
    (bs : List (Block ImageRef)) : (placeBlocks store how p bs).1.map unplaced = bs := by
  obtain ⟨placed, hplaced, hall⟩ := placeFrom_forall₂ store how bs [] p
  rw [placeBlocks, hplaced, List.reverse_nil, List.nil_append, ← List.forall₂_eq_eq_eq,
    List.forall₂_map_left_iff]
  refine (hall.imp ?_).flip
  rintro b c ⟨q, rfl⟩
  exact unplaced_placeBlock store how q b

/-! ### Stores that answer alike -/

/-- The same failures have come up, and the states of the stores are related. -/
def Progress.Alike (R : σ → τ → Prop) (p : Progress σ) (p' : Progress τ) : Prop :=
  R p.store p'.store ∧ p.recent = p'.recent

/-- Stores that are alike place images alike. -/
theorem Store.Alike.placeBlocks {R : σ → τ → Prop} {store : Store σ} {other : Store τ}
    (h : Alike R store other) {p : Progress σ} {p' : Progress τ} (hp : p.Alike R p') (how : Placing)
    (bs : List (Block ImageRef)) :
    (Image.placeBlocks store how p bs).1 = (Image.placeBlocks other how p' bs).1 ∧
      (Image.placeBlocks store how p bs).2.Alike R (Image.placeBlocks other how p' bs).2 := by
  obtain ⟨hcalls, hstates⟩ := h.serve hp.1 (how.requests (imagesOf bs))
  rw [placeBlocks_eq, placeBlocks_eq, hcalls]
  refine ⟨rfl, hstates, ?_⟩
  rw [Progress.after, Progress.after, hcalls, hp.2]

end PageBlocks.Image
