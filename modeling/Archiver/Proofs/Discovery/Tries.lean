import Mathlib.Order.Lattice
import Archiver.Proofs.Discovery.Gains

namespace Archiver

/-- A reply that no further try follows: the page, or word that it is gone. -/
def Reply.settles (r : Reply) : Bool := r.isPage || r.isGone

section Tries

variable (site : Site) (policy : RetryPolicy) (url : String)

/-- A client that has tried a page some number of times, and waited after each. -/
def Client.tried (c : Client) : Nat → Client
  | 0 => c
  | n + 1 => ((c.tried n).pace.fetch site url).1.sleep (policy.waitMillis n)

/-- The answer to the try after some number of others. -/
def Client.answer (c : Client) (n : Nat) : Reply := ((c.tried site policy url n).pace.fetch site url).2

/-- The number of retries that a page gets. -/
def Client.retries (c : Client) : Nat :=
  (List.range policy.maxRetries.toNat).findIdx fun n => (c.answer site policy url n).settles

/-- The number of requests that a page gets. -/
def Client.tries (c : Client) : Nat := c.retries site policy url + 1

/-- The tries for a page end with some number of retries: at the first reply that settles it, or
where no more are allowed. -/
structure Client.EndsAt (c : Client) (n : Nat) : Prop where
  allowed : n ≤ policy.maxRetries.toNat
  unsettled : ∀ m < n, (c.answer site policy url m).settles = false
  settled : n < policy.maxRetries.toNat → (c.answer site policy url n).settles = true

/-- What loading a page comes to after some number of retries. -/
def Client.outcome (c : Client) (n : Nat) : Client × Except Unreachable String :=
  (((c.tried site policy url n).pace.fetch site url).1,
    match c.answer site policy url n with
    | .page _ body => .ok body
    | reply => .error ⟨url, n + 1, reply.describe⟩)

end Tries

section Load

variable {site : Site} {policy : RetryPolicy} {url : String} {c : Client} {m n : Nat}

theorem retries_endsAt (site : Site) (policy : RetryPolicy) (url : String) (c : Client) :
    c.EndsAt site policy url (c.retries site policy url) := by
  have hlength : (List.range policy.maxRetries.toNat).length = policy.maxRetries.toNat :=
    List.length_range
  constructor
  · exact hlength ▸ List.findIdx_le_length
  · intro m hm
    simpa using List.not_of_lt_findIdx hm
  · intro hlt
    have hrange : (List.range policy.maxRetries.toNat).findIdx
        (fun n => (c.answer site policy url n).settles) <
          (List.range policy.maxRetries.toNat).length := by
      rw [hlength]
      exact hlt
    simpa [Client.retries] using List.findIdx_getElem (w := hrange)

theorem endsAt_unique (h : c.EndsAt site policy url m) (h' : c.EndsAt site policy url n) :
    m = n := by
  rcases Nat.lt_trichotomy m n with hlt | heq | hlt
  · have hsettled := h.settled (hlt.trans_le h'.allowed)
    rw [h'.unsettled m hlt] at hsettled
    cases hsettled
  · exact heq
  · have hsettled := h'.settled (hlt.trans_le h.allowed)
    rw [h.unsettled n hlt] at hsettled
    cases hsettled

/-- A page gets one request more than stand in front of the first reply that settles it, as far as
they are allowed. -/
theorem tries_of_first (hsettles : (c.answer site policy url n).settles = true)
    (hfirst : ∀ m < n, (c.answer site policy url m).settles = false) :
    c.tries site policy url = min (n + 1) (policy.maxRetries.toNat + 1) := by
  have hends : c.EndsAt site policy url (min n policy.maxRetries.toNat) :=
    { allowed := Nat.min_le_right _ _
      unsettled := fun m hm => hfirst m (hm.trans_le (Nat.min_le_left _ _))
      settled := fun hlt => by
        have hn : min n policy.maxRetries.toNat = n := by omega
        rw [hn]
        exact hsettles }
  rw [Client.tries, endsAt_unique (retries_endsAt site policy url c) hends]
  omega

/-- A page that no reply settles gets all requests that are allowed. -/
theorem tries_of_none (hnone : ∀ n, (c.answer site policy url n).settles = false) :
    c.tries site policy url = policy.maxRetries.toNat + 1 := by
  have hends : c.EndsAt site policy url policy.maxRetries.toNat :=
    ⟨le_rfl, fun m _ => hnone m, fun hlt => absurd hlt (Nat.lt_irrefl _)⟩
  rw [Client.tries, endsAt_unique (retries_endsAt site policy url c) hends]

theorem tries_le (site : Site) (policy : RetryPolicy) (url : String) (c : Client) :
    c.tries site policy url ≤ policy.maxRetries.toNat + 1 :=
  Nat.succ_le_succ (retries_endsAt site policy url c).allowed

/-- The tries that are left come to the same end as all of them. -/
theorem tryLoad_eq {left : Nat} (hends : c.EndsAt site policy url n) (hm : m ≤ n)
    (hleft : m + left = policy.maxRetries.toNat) :
    Client.tryLoad site policy url m left (c.tried site policy url m) =
      c.outcome site policy url n := by
  induction left generalizing m with
  | zero =>
    obtain rfl : m = n := le_antisymm hm (hends.allowed.trans hleft.ge)
    rw [Client.tryLoad, Client.outcome, Client.answer]
    rcases (c.tried site policy url m).pace.fetch site url with ⟨c', reply⟩
    cases reply <;> rfl
  | succ left ih =>
    rcases hm.eq_or_lt with rfl | hlt
    · have hsettled := hends.settled (by omega)
      rw [Client.answer] at hsettled
      rw [Client.tryLoad, Client.outcome, Client.answer]
      rcases hfetch : (c.tried site policy url m).pace.fetch site url with ⟨c', reply⟩
      rw [hfetch] at hsettled
      cases reply with
      | page => rfl
      | refused status =>
        have hgone : (Reply.refused status).isGone = true := hsettled
        simp only [hgone, if_true]
      | unreachable detail => cases hsettled
    · have hgoOn := hends.unsettled m hlt
      have hnext := ih (m := m + 1) hlt (by omega)
      rw [Client.answer] at hgoOn
      rw [← hnext, Client.tryLoad, Client.tried]
      rcases hfetch : (c.tried site policy url m).pace.fetch site url with ⟨c', reply⟩
      rw [hfetch] at hgoOn
      cases reply with
      | page => cases hgoOn
      | refused status =>
        have hgone : (Reply.refused status).isGone = false := hgoOn
        simp only [hgone, Bool.false_eq_true, if_false]
      | unreachable detail => rfl

/-- Loading a page: it is tried until a reply settles it or no more retries are allowed, and the last
reply decides. -/
theorem load_eq (site : Site) (policy : RetryPolicy) (c : Client) (url : String) :
    Client.load site policy c url = c.outcome site policy url (c.retries site policy url) :=
  tryLoad_eq (retries_endsAt site policy url c) (Nat.zero_le _) (Nat.zero_add _)

theorem toOption_outcome (site : Site) (policy : RetryPolicy) (url : String) (c : Client) (n : Nat) :
    (c.outcome site policy url n).2.toOption = (c.answer site policy url n).body? := by
  unfold Client.outcome
  cases c.answer site policy url n <;> rfl

theorem asked_tried (site : Site) (policy : RetryPolicy) (url : String) (c : Client) (n : Nat) :
    ((c.tried site policy url n).pace.fetch site url).1.asked =
      List.replicate (n + 1) url ++ c.asked := by
  induction n with
  | zero => rfl
  | succ n ih => exact congrArg (url :: ·) ih

/-- Loading a page makes its requests, and no others. -/
theorem asked_load (site : Site) (policy : RetryPolicy) (c : Client) (url : String) :
    (Client.load site policy c url).1.asked =
      List.replicate (c.tries site policy url) url ++ c.asked := by
  rw [load_eq]
  exact asked_tried site policy url c _

end Load

end Archiver
