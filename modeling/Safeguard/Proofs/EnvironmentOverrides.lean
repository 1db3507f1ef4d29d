import Safeguard.Settings.Overrides

/-!
# Overrides from the environment

The variables for settings are texts: whole numbers in decimal, a number in any form that is read,
and the keyword of a mode, each with any blanks around it. This file shows that these texts are read
back, so that an environment in which exactly certain settings are assigned
(`Environment.Assigns`) yields exactly these new values.

## Key results

- `Text.trim_padded`: blanks around a text without blanks
- `Digits.read_ofNat`: the decimal text of a number is read back
- `Binary64.not_isBlank_of_read`: a text that is read as a number has no blanks
- `Environment.overrides_of_assigns`: the overrides in an environment
-/

namespace Safeguard

/-! ## Blanks around a text -/

namespace Text

/-- Characters that are looked through one by one. -/
private theorem not_isBlank_of_any {cs : List Char} (h : cs.any isBlank = false) :
    ∀ c ∈ cs, isBlank c = false := by
  simpa using h

/-- A text without blanks has none to drop. -/
private theorem dropWhile_of_no_blank {cs : List Char} (h : ∀ c ∈ cs, isBlank c = false) :
    cs.dropWhile isBlank = cs := by
  cases cs with
  | nil => rfl
  | cons c cs => simp [h c List.mem_cons_self]

/-- Blanks in front of a text are dropped. -/
private theorem dropWhile_blanks_append {before cs : List Char}
    (h : ∀ c ∈ before, isBlank c = true) :
    (before ++ cs).dropWhile isBlank = cs.dropWhile isBlank :=
  List.dropWhile_append_of_pos h

/-- Blanks around a text without blanks are taken away, and no more. -/
theorem trim_padded {before t after : List Char} (hbefore : ∀ c ∈ before, isBlank c = true)
    (ht : ∀ c ∈ t, isBlank c = false) (hafter : ∀ c ∈ after, isBlank c = true) :
    trim (before ++ t ++ after) = t := by
  have hstart : trimStart (before ++ t ++ after) = (t ++ after).dropWhile isBlank := by
    rw [trimStart, List.append_assoc, dropWhile_blanks_append hbefore]
  have hend : trimEnd (t ++ after) = t := by
    have hrev : ∀ c ∈ t.reverse, isBlank c = false := fun c hc => ht c (List.mem_reverse.1 hc)
    have hrevAfter : ∀ c ∈ after.reverse, isBlank c = true :=
      fun c hc => hafter c (List.mem_reverse.1 hc)
    rw [trimEnd, List.reverse_append, dropWhile_blanks_append hrevAfter, dropWhile_of_no_blank hrev,
      List.reverse_reverse]
  rw [trim, hstart]
  cases t with
  | nil =>
    -- Without a text the blanks behind it go with those in front.
    have hnone : (after ++ []).dropWhile isBlank = [] := dropWhile_blanks_append hafter
    rw [List.append_nil] at hnone
    simp [hnone, trimEnd]
  | cons c t =>
    have hfirst : isBlank c = false := ht c List.mem_cons_self
    have hkept : (c :: t ++ after).dropWhile isBlank = c :: t ++ after := by simp [hfirst]
    rw [hkept, hend]

end Text

/-! ## Numbers in decimal -/

namespace Digits

/-- A digit is read as it is written. -/
private theorem value?_digitChar {d : Nat} (h : d < 10) : value? d.digitChar = some d := by
  have hall : ∀ d < 10, value? (Nat.digitChar d) = some d := by decide
  exact hall d h

/-- The last digit comes off the end. -/
theorem ofNat_eq (n : Nat) :
    ofNat n = (if n < 10 then [] else ofNat (n / 10)) ++ [(n % 10).digitChar] := by
  unfold ofNat
  rw [Nat.toDigits_eq_if (by omega)]
  split
  · next h => simp [Nat.mod_eq_of_lt h]
  · rfl

/-- A number is written in digits only. -/
private theorem isDigit_of_mem_ofNat {n : Nat} {c : Char} (h : c ∈ ofNat n) : isDigit c = true := by
  -- Induction on the number as its last digits come off.
  induction n using Nat.strongRecOn with
  | ind n ih =>
    rw [ofNat_eq, List.mem_append, List.mem_singleton] at h
    rcases h with h | rfl
    · split at h
      · cases h
      · exact ih (n / 10) (by omega) h
    · simp [isDigit, value?_digitChar (Nat.mod_lt n (by decide : 0 < 10))]

/-- Behind the digits of a number, the number is what was read so far. -/
private theorem readFrom_ofNat_append {max n : Nat} (h : n ≤ max) (cs : List Char) :
    readFrom max 0 (ofNat n ++ cs) = readFrom max n cs := by
  induction n using Nat.strongRecOn generalizing cs with
  | ind n ih =>
    have hvalue : value? (n % 10).digitChar = some (n % 10) := value?_digitChar (by omega)
    rw [ofNat_eq]
    split
    · next hlt =>
      rw [Nat.mod_eq_of_lt hlt] at hvalue ⊢
      simp [readFrom, hvalue, h]
    -- The digits in front are read first, by induction, and the last one puts the number together.
    · have hsplit : n / 10 * 10 + n % 10 = n := by omega
      rw [List.append_assoc, ih (n / 10) (by omega) (by omega)]
      simp [readFrom, hvalue, hsplit, h]

/-- A digit is not blank. -/
private theorem isBlank_of_isDigit {c : Char} (h : isDigit c = true) : Text.isBlank c = false := by
  have hrange : '0' ≤ c ∧ c ≤ '9' := by
    unfold isDigit value? at h
    split at h
    · assumption
    · cases h
  have hlow : 48 ≤ c.toNat := hrange.1
  have hhigh : c.toNat ≤ 57 := hrange.2
  simp [Text.isBlank]
  omega

/-- A number up to the bound is read as it is written. -/
theorem read_ofNat {max n : Nat} (h : n ≤ max) : read max (ofNat n) = .ok n := by
  have hplus : ∀ cs, ofNat n ≠ '+' :: cs := by
    intro cs hcs
    have hdigit : isDigit '+' = true := isDigit_of_mem_ofNat (hcs ▸ List.mem_cons_self)
    exact absurd hdigit (by decide)
  have hread : readFrom max 0 (ofNat n) = .ok n := by
    simpa [readFrom] using readFrom_ofNat_append h []
  unfold read
  -- A number has a digit, and none of its digits is a plus sign.
  split
  · next hnil =>
    rw [ofNat_eq] at hnil
    simp at hnil
  · next hone => exact absurd hone (hplus [])
  · next cs _ hcs => exact absurd hcs (hplus cs)
  · exact hread

end Digits

/-! ## Texts of other values -/

namespace Binary64

open Text Digits

/-- No letter is blank, so a blank is the same in lower case. -/
private theorem toLower_of_isBlank {c : Char} (h : isBlank c = true) : c.toLower = c := by
  apply dif_neg
  rintro ⟨hlow, hhigh⟩
  have hlow : 65 ≤ c.toNat := hlow
  have hhigh : c.toNat ≤ 90 := hhigh
  simp [isBlank] at h
  omega

/-- A text that is a word in lower case has no blanks if the word has none. -/
private theorem not_isBlank_of_word {cs : List Char} {word : String}
    (h : String.ofList (cs.map Char.toLower) = word)
    (hword : ∀ c ∈ word.toList, isBlank c = false) : ∀ c ∈ cs, isBlank c = false := by
  intro c hc
  subst h
  have hlower : isBlank c.toLower = false := hword _ (by simpa using ⟨c, hc, rfl⟩)
  cases hblank : isBlank c with
  | false => rfl
  | true =>
    rw [toLower_of_isBlank hblank, hblank] at hlower
    exact hlower

/-- Nor does a sign make one. -/
private theorem not_isBlank_of_splitSign {cs : List Char}
    (h : ∀ c ∈ (splitSign cs).2, isBlank c = false) : ∀ c ∈ cs, isBlank c = false := by
  unfold splitSign at h
  split at h
  · exact List.forall_mem_cons.2 ⟨by decide, h⟩
  · exact List.forall_mem_cons.2 ⟨by decide, h⟩
  · exact h

/-- Digits in front of a text without blanks. -/
private theorem not_isBlank_of_dropWhile {cs : List Char}
    (h : ∀ c ∈ cs.dropWhile isDigit, isBlank c = false) : ∀ c ∈ cs, isBlank c = false := by
  induction cs with
  | nil => exact h
  | cons c cs ih =>
    rw [List.dropWhile_cons] at h
    split at h
    · next hdigit => exact List.forall_mem_cons.2 ⟨isBlank_of_isDigit hdigit, ih h⟩
    · exact h

/-- An exponent is a letter, a sign and digits. -/
private theorem not_isBlank_of_readExponent? {cs : List Char} {n : Int}
    (h : readExponent? cs = some n) :
    ∀ c ∈ cs, isBlank c = false := by
  cases cs with
  | nil => simp
  | cons c cs =>
    simp only [readExponent?] at h
    split at h
    · next hletter =>
      split at h
      · cases h
      · next hdigits =>
        -- A letter that begins it, perhaps a sign, and then digits only.
        have hdigits : ∀ c ∈ (splitSign cs).2, isDigit c = true := by simp_all
        have hcs : ∀ c ∈ cs, isBlank c = false :=
          not_isBlank_of_splitSign fun c hc => isBlank_of_isDigit (hdigits c hc)
        have hc : isBlank c = false := by rcases hletter with rfl | rfl <;> decide
        exact List.forall_mem_cons.2 ⟨hc, hcs⟩
    · cases h

/-- A decimal number is digits, perhaps a point and digits, and perhaps an exponent. -/
private theorem not_isBlank_of_readDecimal? {negative : Bool} {cs : List Char} {x : Binary64}
    (h : readDecimal? negative cs = some x) : ∀ c ∈ cs, isBlank c = false := by
  apply not_isBlank_of_dropWhile
  simp only [readDecimal?] at h
  -- The exponent stands behind the fraction, and without a point behind the whole digits.
  split at h
  · next r hrest =>
    rw [hrest]
    split at h
    · cases h
    · obtain ⟨n, hexponent, -⟩ := Option.bind_eq_some_iff.1 h
      have hr := not_isBlank_of_dropWhile (not_isBlank_of_readExponent? hexponent)
      exact List.forall_mem_cons.2 ⟨by decide, hr⟩
  · split at h
    · cases h
    · obtain ⟨n, hexponent, -⟩ := Option.bind_eq_some_iff.1 h
      exact not_isBlank_of_readExponent? hexponent

/-- A text that is read as a number has no blanks. -/
theorem not_isBlank_of_read {cs : List Char} {x : Binary64} (h : read cs = .ok x) :
    ∀ c ∈ cs, isBlank c = false := by
  apply not_isBlank_of_splitSign
  simp only [read] at h
  -- What is left of the sign is empty, a word or a decimal number.
  split at h
  · cases h
  split at h
  · next hword =>
    rcases hword with hword | hword
    · exact not_isBlank_of_word hword (not_isBlank_of_any (by decide))
    · exact not_isBlank_of_word hword (not_isBlank_of_any (by decide))
  split at h
  · next hword => exact not_isBlank_of_word hword (not_isBlank_of_any (by decide))
  split at h
  · next hdecimal => exact not_isBlank_of_readDecimal? hdecimal
  · cases h

end Binary64

/-- A mode is read as it is written. -/
private theorem TimeoutMode.read_keyword (mode : TimeoutMode) :
    read mode.keyword.toList = .ok mode := by
  cases mode <;> decide

/-- The keyword of a mode has no blanks. -/
private theorem TimeoutMode.not_isBlank_of_mem_keyword (mode : TimeoutMode) :
    ∀ c ∈ mode.keyword.toList, Text.isBlank c = false := by
  apply Text.not_isBlank_of_any
  cases mode <;> decide

/-! ## Variables that are assigned -/

namespace EnvValue

/-- A value that is a certain text, with any blanks around it. -/
def Says (v : EnvValue) (t : List Char) : Prop :=
  ∃ (raw : String) (before after : List Char), v = .text raw ∧ raw.toList = before ++ t ++ after ∧
    (∀ c ∈ before, Text.isBlank c = true) ∧ ∀ c ∈ after, Text.isBlank c = true

/-- A value that holds a word, in decimal. -/
def IsWord32 (v : EnvValue) (n : UInt32) : Prop := v.Says (Digits.ofNat n.toNat)

/-- A value that holds a word, in decimal. -/
def IsWord64 (v : EnvValue) (n : UInt64) : Prop := v.Says (Digits.ofNat n.toNat)

/-- A value that holds a number, in any form that is read as it. -/
def IsDouble (v : EnvValue) (x : Binary64) : Prop := ∃ t, Binary64.read t = .ok x ∧ v.Says t

/-- A value that holds a mode. -/
def IsMode (v : EnvValue) (mode : TimeoutMode) : Prop := v.Says mode.keyword.toList

/-- A value that says a text without blanks is read as the text is. -/
private theorem exists_text_of_says {v : EnvValue} {t : List Char} (h : v.Says t)
    (ht : ∀ c ∈ t, Text.isBlank c = false) : ∃ raw, v = .text raw ∧ Text.trim raw.toList = t := by
  obtain ⟨raw, before, after, hv, hraw, hbefore, hafter⟩ := h
  refine ⟨raw, hv, ?_⟩
  rw [hraw, Text.trim_padded hbefore ht hafter]

end EnvValue

namespace Environment

variable (env : Environment)

/-- Exactly the settings with new values are assigned, each to its new value. -/
structure Assigns (o : Overrides) : Prop where
  maxAttempts : Option.Rel EnvValue.IsWord32 (env.get? "FORTIFY_RETRY_MAX_ATTEMPTS") o.maxAttempts
  initialDelay :
    Option.Rel EnvValue.IsWord64 (env.get? "FORTIFY_RETRY_INITIAL_DELAY_MS") o.initialDelay
  maxDelay : Option.Rel EnvValue.IsWord64 (env.get? "FORTIFY_RETRY_MAX_DELAY_MS") o.maxDelay
  multiplier :
    Option.Rel EnvValue.IsDouble (env.get? "FORTIFY_RETRY_BACKOFF_MULTIPLIER") o.multiplier
  failureThreshold :
    Option.Rel EnvValue.IsWord32 (env.get? "FORTIFY_CB_FAILURE_THRESHOLD") o.failureThreshold
  resetTimeout :
    Option.Rel EnvValue.IsWord64 (env.get? "FORTIFY_CB_RESET_TIMEOUT_MS") o.resetTimeout
  successThreshold :
    Option.Rel EnvValue.IsWord32 (env.get? "FORTIFY_CB_SUCCESS_THRESHOLD") o.successThreshold
  maxConcurrent :
    Option.Rel EnvValue.IsWord64 (env.get? "FORTIFY_BULKHEAD_MAX_CONCURRENT_CALLS") o.maxConcurrent
  limit : Option.Rel EnvValue.IsWord64 (env.get? "FORTIFY_TIMEOUT_MS") o.limit
  mode : Option.Rel EnvValue.IsMode (env.get? "FORTIFY_TIMEOUT_MODE") o.mode

variable {env} {o : Overrides} {name : String}

/-- The value under a name is read if every value that may be there says a text that is read. -/
private theorem read?_of_rel {α β ε : Type} {holds : EnvValue → β → Prop} {value : β → α}
    {read : List Char → Except ε α} {message : ε → String} {b : Option β}
    (h : Option.Rel holds (env.get? name) b)
    (hread : ∀ v b, holds v b → ∃ t, read t = .ok (value b) ∧ (∀ c ∈ t, Text.isBlank c = false) ∧
      v.Says t) : env.read? name read message = .ok (b.map value) := by
  unfold read?
  -- The variable is there exactly if there is a new value.
  generalize env.get? name = found at h
  cases h with
  | none => rfl
  | some h =>
    obtain ⟨t, ht, hblank, hsays⟩ := hread _ _ h
    obtain ⟨raw, rfl, htrim⟩ := EnvValue.exists_text_of_says hsays hblank
    simp [htrim, ht]

/-- A word of a type whose words are numbers up to a bound. -/
private theorem read?_of_rel_word {β : Type} {toNat : β → Nat} {max : Nat}
    (hmax : ∀ n, toNat n ≤ max) {n : Option β}
    (h : Option.Rel (fun v n => v.Says (Digits.ofNat (toNat n))) (env.get? name) n) :
    env.read? name (Digits.read max) WordError.message = .ok (n.map toNat) := by
  apply read?_of_rel h
  intro v n hv
  refine ⟨_, Digits.read_ofNat (hmax n), fun c hc => ?_, hv⟩
  exact Digits.isBlank_of_isDigit (Digits.isDigit_of_mem_ofNat hc)

/-- A word of 32 bits is read if it is assigned. -/
private theorem word32?_of_rel {n : Option UInt32}
    (h : Option.Rel EnvValue.IsWord32 (env.get? name) n) : env.word32? name = .ok n := by
  have hmax (n : UInt32) : n.toNat ≤ 2 ^ 32 - 1 := by
    have hlt := n.toNat_lt
    omega
  rw [word32?, read?_of_rel_word hmax h]
  cases n <;> simp [Except.map]

/-- A word of 64 bits is read if it is assigned. -/
private theorem word64?_of_rel {n : Option UInt64}
    (h : Option.Rel EnvValue.IsWord64 (env.get? name) n) : env.word64? name = .ok n := by
  have hmax (n : UInt64) : n.toNat ≤ 2 ^ 64 - 1 := by
    have hlt := n.toNat_lt
    omega
  rw [word64?, read?_of_rel_word hmax h]
  cases n <;> simp [Except.map]

/-- A number is read if it is assigned, in whatever form. -/
private theorem read?_of_rel_double {x : Option Binary64}
    (h : Option.Rel EnvValue.IsDouble (env.get? name) x) :
    env.read? name Binary64.read Binary64.ReadError.message = .ok x := by
  have hread : env.read? name Binary64.read Binary64.ReadError.message = .ok (x.map id) := by
    apply read?_of_rel h
    rintro v x ⟨t, ht, hsays⟩
    exact ⟨t, ht, Binary64.not_isBlank_of_read ht, hsays⟩
  rw [hread, Option.map_id_fun, id]

/-- A mode is read if it is assigned. -/
private theorem read?_of_rel_mode {mode : Option TimeoutMode}
    (h : Option.Rel EnvValue.IsMode (env.get? name) mode) :
    env.read? name TimeoutMode.read TimeoutMode.ReadError.message = .ok mode := by
  have hread : env.read? name TimeoutMode.read TimeoutMode.ReadError.message =
      .ok (mode.map id) := by
    apply read?_of_rel h
    intro v mode hv
    exact ⟨_, mode.read_keyword, mode.not_isBlank_of_mem_keyword, hv⟩
  rw [hread, Option.map_id_fun, id]

/-- What is assigned is what is read. -/
theorem overrides_of_assigns (h : env.Assigns o) : env.overrides = .ok o := by
  -- Every variable is read by itself, so the ten readings make up the whole.
  simp only [overrides, word32?_of_rel h.maxAttempts, word64?_of_rel h.initialDelay,
    word64?_of_rel h.maxDelay, read?_of_rel_double h.multiplier,
    word32?_of_rel h.failureThreshold, word64?_of_rel h.resetTimeout,
    word32?_of_rel h.successThreshold, word64?_of_rel h.maxConcurrent, word64?_of_rel h.limit,
    read?_of_rel_mode h.mode]
  rfl

end Environment

end Safeguard
