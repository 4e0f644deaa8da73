import ProxySteward.Usage.Fetch

/-!
# What an operator is told of a failed fetch

The report of a failure says nothing of what the server sent.  It depends on the kind of the
failure, on whether the credentials were refused and on whether there are any (`friendly_congr`).  A
server that answers each request with the same status and lets it fail in the same way, but writes
something else into its failing replies, is therefore reported in the same way
(`Exchange.Alike.report`).
-/

namespace ProxySteward

open Text

namespace UsageFault

/-- In which way a fetch failed. -/
inductive Kind where
  | invalidBaseUrl
  | unreachable
  | invalidResponse
  | http
  | serverMessage
  | undecodable
  deriving DecidableEq, Repr

def kind : UsageFault → Kind
  | .invalidBaseUrl => .invalidBaseUrl
  | .unreachable => .unreachable
  | .invalidResponse => .invalidResponse
  | .http _ _ => .http
  | .serverMessage _ => .serverMessage
  | .undecodable => .undecodable

/-- Whether the server refused the credentials. -/
def isRefusal : UsageFault → Bool
  | .http status _ => Exchange.isUnauthorized status
  | _ => false

theorem friendly_of_isRefusal {f : UsageFault} (h : f.isRefusal = true) (key : Text) :
    f.friendly key = if (trim key).isEmpty
      then "monitoring unauthorized: missing management key".toList
      else "monitoring unauthorized: management key rejected".toList := by
  cases f with
  | http status body => exact if_pos h
  | _ => exact absurd h (by simp [isRefusal])

theorem friendly_of_not_isRefusal {f : UsageFault} (h : f.isRefusal = false) (key : Text) :
    f.friendly key = if f.kind = .undecodable then
      "usage format temporarily incompatible, skipped".toList
      else "usage temporarily unavailable".toList := by
  cases f with
  | http status body => exact if_neg (ne_true_of_eq_false h)
  | _ => rfl

/-- **The report of a failure** depends on three things only. -/
theorem friendly_congr {f g : UsageFault} {key key' : Text} (hkind : f.kind = g.kind)
    (hrefusal : f.isRefusal = g.isRefusal) (hkey : (trim key).isEmpty = (trim key').isEmpty) :
    f.friendly key = g.friendly key' := by
  cases hg : g.isRefusal with
  | true => rw [friendly_of_isRefusal (hrefusal.trans hg), friendly_of_isRefusal hg, hkey]
  | false => rw [friendly_of_not_isRefusal (hrefusal.trans hg), friendly_of_not_isRefusal hg, hkind]

end UsageFault

open UsageFetch

/-- A reply refuses the credentials by its status alone. -/
theorem UsageFault.isRefusal_of_reply {status : Nat} {body : Bytes} {f : UsageFault}
    (h : ofExchange (.reply status body) = .error f) :
    f.isRefusal = (!Exchange.isSuccess status && Exchange.isUnauthorized status) := by
  rw [ofExchange] at h
  cases hsuccess : Exchange.isSuccess status with
  | true =>
    rw [hsuccess, if_pos rfl] at h
    split at h
    · next answer _ =>
      rw [ofAnswer] at h
      split at h
      · exact absurd h (by simp)
      · rw [← Except.error.inj h]
        rfl
    · rw [← Except.error.inj h]
      rfl
  | false =>
    rw [hsuccess, if_neg (by simp)] at h
    rw [← Except.error.inj h]
    rfl

/-- Two exchanges that are the same, or two replies with the same status that fail in the same
way. -/
def Exchange.Alike (x y : Exchange) : Prop :=
  x = y ∨ ∃ status body body' f g, x = .reply status body ∧ y = .reply status body' ∧
    ofExchange x = .error f ∧ ofExchange y = .error g ∧ f.kind = g.kind

/-- **Exchanges that are alike** bring the same usage or the same report. -/
theorem Exchange.Alike.report {x y : Exchange} (h : x.Alike y) :
    ofExchange x = ofExchange y ∨ ∃ f g, ofExchange x = .error f ∧ ofExchange y = .error g ∧
      ∀ key, f.friendly key = g.friendly key := by
  rcases h with rfl | ⟨status, body, body', f, g, rfl, rfl, hf, hg, hkind⟩
  · exact Or.inl rfl
  · refine Or.inr ⟨f, g, hf, hg, fun key => UsageFault.friendly_congr hkind ?_ rfl⟩
    rw [UsageFault.isRefusal_of_reply hf, UsageFault.isRefusal_of_reply hg]

end ProxySteward
