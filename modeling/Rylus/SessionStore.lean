import Rylus.RateLimiter

/-!
# Login sessions

`SessionStore` maps the tokens handed out as cookies to their creation time.
-/

namespace Rylus

/-- Sessions expire after 24 hours. -/
def sessionTtl : Nat := fromSecs (24 * 3600)

/-- Creation time of every session that has not been removed. -/
structure SessionStore (Token : Type*) where
  tokens : Token → Option Nat

namespace SessionStore

variable {Token : Type*}

def new : SessionStore Token := ⟨fun _ => none⟩

/-- Invalidate every active session. -/
def clear (_ : SessionStore Token) : SessionStore Token := new

variable [DecidableEq Token]

/-- Insert the token that the random generator produced. -/
def createSession (store : SessionStore Token) (token : Token)
    (now : Nat) : SessionStore Token :=
  ⟨Function.update store.tokens token (some now)⟩

/-- Whether a token exists and has not expired; an expired one is removed. -/
def isValid (store : SessionStore Token) (token : Token) (now : Nat) :
    Bool × SessionStore Token :=
  match store.tokens token with
  | some created =>
      if now - created < sessionTtl then
        (true, store)
      else
        (false, ⟨Function.update store.tokens token none⟩)
  | none => (false, store)

theorem isValid_iff {store : SessionStore Token} {token : Token}
    {now : Nat} :
    (store.isValid token now).1 = true ↔
      ∃ created, store.tokens token = some created ∧
        now - created < sessionTtl := by
  unfold isValid
  cases stored : store.tokens token with
  | none => simp
  | some created =>
      by_cases young : now - created < sessionTtl <;> simp [young]

@[simp]
theorem isValid_clear (store : SessionStore Token) (token : Token)
    (now : Nat) : (store.clear.isValid token now).1 = false :=
  rfl

/-- Looking a token up again gives the same answer. -/
theorem isValid_isValid (store : SessionStore Token) (token : Token)
    (now : Nat) :
    ((store.isValid token now).2.isValid token now).1 =
      (store.isValid token now).1 := by
  unfold isValid
  cases stored : store.tokens token with
  | none => simp [stored]
  | some created =>
      by_cases young : now - created < sessionTtl <;> simp [stored, young]

/-- Looking a token up only ever removes sessions. -/
theorem tokens_of_isValid {store : SessionStore Token} {asked token : Token}
    {now created : Nat}
    (stored : (store.isValid asked now).2.tokens token = some created) :
    store.tokens token = some created := by
  unfold isValid at stored
  cases found : store.tokens asked with
  | none => simpa [found] using stored
  | some since =>
      by_cases young : now - since < sessionTtl
      · simpa [found, young] using stored
      · by_cases same : token = asked
        · subst same
          simp [found, young] at stored
        · simpa [found, young, same] using stored

/-- A session that is valid now was valid at every time since some of it was
in the store. -/
theorem isValid_of_le {store : SessionStore Token} {token : Token}
    {earlier later : Nat} (order : earlier ≤ later)
    (valid : (store.isValid token later).1 = true) :
    (store.isValid token earlier).1 = true := by
  rw [isValid_iff] at valid ⊢
  obtain ⟨created, stored, young⟩ := valid
  exact ⟨created, stored, by omega⟩

theorem isValid_of_isValid {store : SessionStore Token}
    {asked token : Token} {now time : Nat}
    (valid : ((store.isValid asked now).2.isValid token time).1 = true) :
    (store.isValid token time).1 = true := by
  rw [isValid_iff] at valid ⊢
  obtain ⟨created, stored, young⟩ := valid
  exact ⟨created, tokens_of_isValid stored, young⟩

theorem isValid_createSession_self (store : SessionStore Token)
    (token : Token) (now : Nat) :
    ((store.createSession token now).isValid token now).1 = true := by
  have positive : 0 < sessionTtl := by decide
  rw [isValid_iff]
  exact ⟨now, by simp [createSession], by omega⟩

theorem isValid_createSession_of_ne {store : SessionStore Token}
    {token other : Token} (different : other ≠ token) (now time : Nat) :
    ((store.createSession token now).isValid other time).1 =
      (store.isValid other time).1 := by
  rw [Bool.eq_iff_iff, isValid_iff, isValid_iff]
  simp [createSession, different]

end SessionStore

end Rylus
