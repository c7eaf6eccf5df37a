import PageBlocks.Image.Placement

/-!
What a store is asked, and what it answers. Serving a list of requests is what a store does on its own;
a store that writes its calls down shows which requests reach it when other parts of a conversion stand
in front of it. Two stores are alike if they answer alike from states that are related, whatever each of
them remembers.
-/
namespace PageBlocks.Image

/-- A request that has reached a store, with its outcome. -/
structure Call where
  request : UploadRequest
  outcome : Outcome
  deriving DecidableEq, Inhabited

namespace Call

/-- The failure that a call amounts to, if the store refused. -/
def failure? (call : Call) : Option Failure :=
  match call.outcome with
  | .stored _ => none
  | .refused reason => some ⟨call.request.url, reason⟩

/-- The address that a call asked for, if the store took the image in. -/
def storedUrl? (call : Call) : Option String :=
  match call.outcome with
  | .stored _ => some call.request.url
  | .refused _ => none

end Call

variable {σ τ : Type}

namespace Store

/-- Answer requests one after the other. -/
def serve (store : Store σ) (s : σ) : List UploadRequest → List Call × σ
  | [] => ([], s)
  | q :: rest =>
    let (outcome, s) := store s q
    let (calls, s) := serve store s rest
    (⟨q, outcome⟩ :: calls, s)

/-- The store with its calls written down. -/
def recorded (inner : Store σ) : Store (σ × List Call) := fun (s, calls) q =>
  let (outcome, s) := inner s q
  (outcome, (s, calls ++ [⟨q, outcome⟩]))

/-! ### Serving requests -/

@[simp] theorem serve_nil (store : Store σ) (s : σ) : store.serve s [] = ([], s) := rfl

theorem serve_cons (store : Store σ) (s : σ) (q : UploadRequest) (rest : List UploadRequest) :
    store.serve s (q :: rest) =
      (⟨q, (store s q).1⟩ :: (store.serve (store s q).2 rest).1,
        (store.serve (store s q).2 rest).2) := rfl

theorem serve_append (store : Store σ) (s : σ) (qs rest : List UploadRequest) :
    store.serve s (qs ++ rest) =
      ((store.serve s qs).1 ++ (store.serve (store.serve s qs).2 rest).1,
        (store.serve (store.serve s qs).2 rest).2) := by
  induction qs generalizing s with
  | nil => rfl
  | cons q qs ih => rw [List.cons_append, serve_cons, ih, serve_cons, List.cons_append]

/-- Each request is a call, in order and once. -/
theorem requests_serve (store : Store σ) (s : σ) (qs : List UploadRequest) :
    (store.serve s qs).1.map (·.request) = qs := by
  induction qs generalizing s with
  | nil => rfl
  | cons q qs ih => rw [serve_cons, List.map_cons, ih]

/-- What is written down are the calls, behind those that were written down before. -/
theorem serve_recorded (inner : Store σ) (s : σ) (calls : List Call) (qs : List UploadRequest) :
    inner.recorded.serve (s, calls) qs =
      ((inner.serve s qs).1, ((inner.serve s qs).2, calls ++ (inner.serve s qs).1)) := by
  induction qs generalizing s calls with
  | nil => simp
  | cons q qs ih =>
    have hstep : inner.recorded (s, calls) q =
        ((inner s q).1, ((inner s q).2, calls ++ [⟨q, (inner s q).1⟩])) := rfl
    rw [serve_cons, hstep, ih, serve_cons, List.append_assoc, List.singleton_append]

/-! ### Stores that answer alike -/

/-- From related states the stores give the same outcome and go to related states. -/
def Alike (R : σ → τ → Prop) (store : Store σ) (other : Store τ) : Prop :=
  ∀ s t, R s t → ∀ q, (store s q).1 = (other t q).1 ∧ R (store s q).2 (other t q).2

/-- Stores that are alike answer all requests alike. -/
theorem Alike.serve {R : σ → τ → Prop} {store : Store σ} {other : Store τ}
    (h : Alike R store other) {s : σ} {t : τ} (hst : R s t) (qs : List UploadRequest) :
    (store.serve s qs).1 = (other.serve t qs).1 ∧ R (store.serve s qs).2 (other.serve t qs).2 := by
  induction qs generalizing s t with
  | nil => exact ⟨rfl, hst⟩
  | cons q qs ih =>
    obtain ⟨houtcome, hnext⟩ := h s t hst q
    obtain ⟨hcalls, hlast⟩ := ih hnext
    refine ⟨?_, hlast⟩
    rw [serve_cons, serve_cons, houtcome, hcalls]

/-- To write calls down changes no answer. -/
theorem recorded_alike (inner : Store σ) : Alike (fun s t => s.1 = t) inner.recorded inner := by
  rintro ⟨s, calls⟩ t rfl q
  exact ⟨rfl, rfl⟩

/-- What a store answers hangs on the address alone. -/
def AnswersBy (answer : String → Outcome) (store : Store σ) : Prop :=
  ∀ s q, (store s q).1 = answer q.url

end Store

end PageBlocks.Image
