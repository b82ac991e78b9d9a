import RecordService.Sql.Fragment
/-!
# Tokens — the text of a condition, taken apart

SQL text is a list of tokens: quoted names, placeholders, casts, words, signs and marks.  They are told apart one
character at a time (`Scan`).  A chunk scans as a list of tokens before some rest when the rest cannot go on with it
(`Scans`): a quoted name before anything but a quote, whatever the name is (`scans_name`), and a number or a type
before a delimiter (`scans_hole`).
-/
namespace RecordService.Sql

inductive Token where
  /-- A name in double quotes. -/
  | name (identifier : String)
  /-- A dollar sign and a number, which is at least one. -/
  | hole (number : Nat)
  /-- Two colons and a type. -/
  | cast (type : String)
  | word (text : String)
  | sign (text : String)
  | opening
  | closing
  | comma
  deriving DecidableEq

/-! ## Scanning -/

/-- A type is written in letters, digits, underscores and dots; every character beyond ASCII counts as a letter. -/
def isTypeChar (c : Char) : Bool := c.isAlphanum || c == '_' || c == '.' || 128 ≤ c.toNat

def isSignChar (c : Char) : Bool := c == '<' || c == '>' || c == '='

/-- How far the token at hand has been read.  Its characters are kept from the last one on. -/
inductive Scan where
  | blank
  | name (read : List Char)
  /-- A quote inside a name, which ends the name unless another quote follows. -/
  | quote (read : List Char)
  | hole (number : Nat)
  | colon
  | cast (read : List Char)
  | word (read : List Char)
  | sign (read : List Char)
  | mark (token : Token)

namespace Scan

/-- The token goes on with the character. -/
def extend : Scan → Char → Option Scan
  | .blank, _ => none
  | .name read, c => some (if c = '"' then .quote read else .name (c :: read))
  | .quote read, c => if c = '"' then some (.name ('"' :: read)) else none
  | .hole number, c => if c.isDigit then some (.hole (10 * number + (c.toNat - '0'.toNat))) else none
  | .colon, c => if c = ':' then some (.cast []) else none
  | .cast read, c => if isTypeChar c then some (.cast (c :: read)) else none
  | .word read, c => if c.isAlpha then some (.word (c :: read)) else none
  | .sign read, c => if isSignChar c then some (.sign (c :: read)) else none
  | .mark _, _ => none

/-- The token begins with the character. -/
def start (c : Char) : Option Scan :=
  if c = ' ' then some .blank
  else if c = '"' then some (.name [])
  else if c = '$' then some (.hole 0)
  else if c = ':' then some .colon
  else if c = '(' then some (.mark .opening)
  else if c = ')' then some (.mark .closing)
  else if c = ',' then some (.mark .comma)
  else if c.isAlpha then some (.word [c])
  else if isSignChar c then some (.sign [c])
  else none

/-- The token, if it may end here. -/
def finish : Scan → Option (List Token)
  | .blank => some []
  | .name _ => none
  | .quote read => some [.name (String.ofList read.reverse)]
  | .hole number => some [.hole number]
  | .colon => none
  | .cast read => some [.cast (String.ofList read.reverse)]
  | .word read => some [.word (String.ofList read.reverse)]
  | .sign read => some [.sign (String.ofList read.reverse)]
  | .mark token => some [token]

/-- One character, and the tokens that end before it. -/
def step (scan : Scan) (c : Char) : Option (List Token × Scan) :=
  match scan.extend c with
  | some next => some ([], next)
  | none =>
    match scan.finish, start c with
    | some ended, some next => some (ended, next)
    | _, _ => none

/-- The tokens that end within a text, and what is at hand behind it. -/
def run : Scan → List Char → Option (List Token × Scan)
  | scan, [] => some ([], scan)
  | scan, c :: text =>
    match scan.step c with
    | some (ended, next) => (run next text).map fun (more, last) => (ended ++ more, last)
    | none => none

end Scan

def tokenize (text : List Char) : Option (List Token) :=
  match Scan.blank.run text with
  | some (ended, last) => last.finish.map (ended ++ ·)
  | none => none

namespace Scan

variable {scan next mid last : Scan} {c : Char} {ended more : List Token}

theorem step_of_extend (h : scan.extend c = some next) : scan.step c = some ([], next) := by
  rw [step, h]

theorem step_of_finish (hstop : scan.extend c = none) (hend : scan.finish = some ended) (hstart : start c = some next) :
    scan.step c = some (ended, next) := by
  rw [step, hstop, hend, hstart]

theorem run_cons {text : List Char} (hstep : scan.step c = some (ended, next)) (hrun : next.run text = some (more, last)) :
    scan.run (c :: text) = some (ended ++ more, last) := by
  rw [run, hstep]
  dsimp only
  rw [hrun]
  rfl

theorem run_extend {text : List Char} (hgo : scan.extend c = some next) (hrun : next.run text = some (more, last)) :
    scan.run (c :: text) = some (more, last) := run_cons (step_of_extend hgo) hrun

theorem run_start {text : List Char} (hstart : start c = some next) (hrun : next.run text = some (more, last)) :
    Scan.blank.run (c :: text) = some (more, last) := by
  have hstep : Scan.blank.step c = some ([], next) := step_of_finish rfl rfl hstart
  exact run_cons hstep hrun

theorem of_run_cons {text : List Char} {ts : List Token} (h : scan.run (c :: text) = some (ts, last)) :
    ∃ ended next more, scan.step c = some (ended, next) ∧ next.run text = some (more, last) ∧ ts = ended ++ more := by
  rw [run] at h
  cases hstep : scan.step c with
  | none => rw [hstep] at h; cases h
  | some taken =>
    obtain ⟨ended, next⟩ := taken
    rw [hstep] at h
    obtain ⟨⟨more, last'⟩, hrun, heq⟩ := Option.map_eq_some_iff.1 h
    cases heq
    exact ⟨ended, next, more, rfl, hrun, rfl⟩

theorem run_append {b : List Char} (hb : mid.run b = some (more, last)) : ∀ (a : List Char) {scan : Scan}
    {ended : List Token}, scan.run a = some (ended, mid) → scan.run (a ++ b) = some (ended ++ more, last)
  | [], _, _, h => by cases h; exact hb
  | c :: a, _, _, h => by
    obtain ⟨ended, next, rest, hstep, hrun, rfl⟩ := of_run_cons h
    rw [List.append_assoc]
    exact run_cons hstep (run_append hb a hrun)

end Scan

theorem tokenize_of_run {text : List Char} {last : Scan} {ended fin : List Token}
    (hrun : Scan.blank.run text = some (ended, last)) (hfin : last.finish = some fin) :
    tokenize text = some (ended ++ fin) := by
  rw [tokenize, hrun]
  dsimp only
  rw [hfin]
  rfl

theorem run_of_tokenize {text : List Char} {ts : List Token} (h : tokenize text = some ts) :
    ∃ ended last fin, Scan.blank.run text = some (ended, last) ∧ last.finish = some fin ∧ ts = ended ++ fin := by
  rw [tokenize] at h
  cases hrun : Scan.blank.run text with
  | none => rw [hrun] at h; cases h
  | some taken =>
    obtain ⟨ended, last⟩ := taken
    rw [hrun] at h
    obtain ⟨fin, hfin, rfl⟩ := Option.map_eq_some_iff.1 h
    exact ⟨ended, last, fin, rfl, hfin, rfl⟩

/-! ## Chunks -/

/-- **The chunk scans as the tokens before the rest.** -/
def Scans (chunk : List Char) (tokens : List Token) (rest : List Char) : Prop :=
  ∀ more, tokenize rest = some more → tokenize (chunk ++ rest) = some (tokens ++ more)

theorem Scans.append {a b rest : List Char} {ts us : List Token} (ha : Scans a ts (b ++ rest)) (hb : Scans b us rest) :
    Scans (a ++ b) (ts ++ us) rest := by
  intro more hmore
  rw [List.append_assoc, List.append_assoc]
  exact ha _ (hb more hmore)

theorem scans_nil (rest : List Char) : Scans [] [] rest := fun _ h => h

/-- A chunk scans as what it is made of, when its last token may end and the rest cannot go on with it. -/
theorem scans_of_run {chunk rest : List Char} {last : Scan} {ended fin : List Token}
    (hrun : Scan.blank.run chunk = some (ended, last)) (hfin : last.finish = some fin)
    (hrest : ∀ c ∈ rest.head?, last.extend c = none) : Scans chunk (ended ++ fin) rest := by
  intro more hmore
  cases rest with
  | nil =>
    cases hmore
    rw [List.append_nil, tokenize_of_run hrun hfin]
    exact congrArg some (List.append_nil _).symm
  | cons c text =>
    obtain ⟨ts, final, us, htext, hfinal, rfl⟩ := run_of_tokenize hmore
    obtain ⟨none, next, ts, hstep, hnext, rfl⟩ := Scan.of_run_cons htext
    -- Nothing is at hand before the rest, so its first character begins a token there.
    obtain ⟨hnone, hstart⟩ : none = [] ∧ Scan.start c = some next := by
      rw [Scan.step] at hstep
      dsimp only [Scan.extend, Scan.finish] at hstep
      cases hstart : Scan.start c with
      | none => rw [hstart] at hstep; cases hstep
      | some scan => rw [hstart] at hstep; cases hstep; exact ⟨rfl, rfl⟩
    have hchunk := Scan.run_append (Scan.run_cons (Scan.step_of_finish (hrest c rfl) hfin hstart) hnext) chunk hrun
    rw [tokenize_of_run hchunk hfinal, hnone]
    simp only [List.nil_append, List.append_assoc]

/-- What ends every token but a quoted name. -/
def Delimited (rest : List Char) : Prop := ∀ c ∈ rest.head?, c = ' ' ∨ c = ')' ∨ c = ','

theorem delimited_nil : Delimited [] := fun _ h => by cases h

theorem delimited_cons {c : Char} {rest : List Char} (h : c = ' ' ∨ c = ')' ∨ c = ',') : Delimited (c :: rest) :=
  fun _ hc => by cases hc; exact h

/-! ### Names -/

theorem run_name : ∀ s read : List Char,
    (Scan.name read).run (Fragment.doubleQuotes s ++ ['"']) = some ([], .quote (s.reverse ++ read))
  | [], _ => rfl
  | c :: s, read => by
    have ih := run_name s (c :: read)
    rw [List.reverse_cons, List.append_assoc, List.singleton_append, Fragment.doubleQuotes]
    by_cases hc : c = '"'
    · subst hc
      exact Scan.run_extend rfl (Scan.run_extend rfl ih)
    · have hgo : (Scan.name read).extend c = some (.name (c :: read)) := congrArg some (if_neg hc)
      rw [if_neg hc]
      exact Scan.run_extend hgo ih

/-- **A quoted name is read back**, whatever characters are in it. -/
theorem scans_name (s : String) {rest : List Char} (hrest : rest.head? ≠ some '"') :
    Scans (Fragment.quoteName s) [.name s] rest := by
  have hrun : Scan.blank.run (Fragment.quoteName s) = some ([], .quote (s.toList.reverse ++ [])) :=
    Scan.run_start (c := '"') rfl (run_name s.toList [])
  have hfin : (Scan.quote (s.toList.reverse ++ [])).finish = some [.name s] := by
    rw [Scan.finish, List.append_nil, List.reverse_reverse, String.ofList_toList]
  refine scans_of_run hrun hfin fun c hc => ?_
  have hquote : c ≠ '"' := fun h => hrest (h ▸ hc)
  exact if_neg hquote

/-! ### Placeholders -/

theorem run_digits : ∀ (digits : List Char) (number : Nat), (∀ c ∈ digits, c.isDigit = true) →
    (Scan.hole number).run digits = some ([], .hole (Nat.ofDigitChars 10 digits number))
  | [], _, _ => rfl
  | c :: digits, number, h => by
    obtain ⟨hc, hdigits⟩ := List.forall_mem_cons.1 h
    have hgo : (Scan.hole number).extend c = some (.hole (10 * number + (c.toNat - '0'.toNat))) := if_pos hc
    rw [Nat.ofDigitChars_cons]
    exact Scan.run_extend hgo (run_digits digits _ hdigits)

theorem run_type : ∀ type read : List Char, (∀ c ∈ type, isTypeChar c = true) →
    (Scan.cast read).run type = some ([], .cast (type.reverse ++ read))
  | [], _, _ => rfl
  | c :: type, read, h => by
    obtain ⟨hc, htype⟩ := List.forall_mem_cons.1 h
    rw [List.reverse_cons, List.append_assoc, List.singleton_append]
    have hgo : (Scan.cast read).extend c = some (.cast (c :: read)) := if_pos hc
    exact Scan.run_extend hgo (run_type type (c :: read) htype)

theorem scans_number (number : Nat) {rest : List Char} (hrest : ∀ c ∈ rest.head?, c.isDigit = false) :
    Scans ('$' :: (toString number).toList) [.hole number] rest := by
  have hdigits : (toString number).toList = Nat.toDigits 10 number := String.toList_ofList
  have hrun : Scan.blank.run ('$' :: (toString number).toList) = some ([], .hole number) := by
    have h := run_digits (Nat.toDigits 10 number) 0 fun c hc => Nat.isDigit_of_mem_toDigits (by decide) (by decide) hc
    rw [Nat.ofDigitChars_toDigits (by decide) (by decide)] at h
    rw [hdigits]
    exact Scan.run_start (c := '$') rfl h
  exact scans_of_run hrun rfl fun c hc => if_neg (by rw [hrest c hc]; exact Bool.false_ne_true)

theorem scans_cast {type : String} (htype : ∀ c ∈ type.toList, isTypeChar c = true) {rest : List Char}
    (hrest : Delimited rest) : Scans (Fragment.castText (some type)) [.cast type] rest := by
  have hrun : Scan.blank.run (Fragment.castText (some type)) = some ([], .cast (type.toList.reverse ++ [])) :=
    Scan.run_start (c := ':') rfl (Scan.run_extend (c := ':') rfl (run_type type.toList [] htype))
  have hfin : (Scan.cast (type.toList.reverse ++ [])).finish = some [.cast type] := by
    rw [Scan.finish, List.append_nil, List.reverse_reverse, String.ofList_toList]
  refine scans_of_run hrun hfin fun c hc => if_neg ?_
  obtain rfl | rfl | rfl := hrest c hc <;> decide

/-- **A placeholder is read back**, with its number and its cast. -/
theorem scans_hole (number : Nat) {cast : Option String} (hcast : ∀ type ∈ cast, ∀ c ∈ type.toList, isTypeChar c = true)
    {rest : List Char} (hrest : Delimited rest) :
    Scans ('$' :: (toString number).toList ++ Fragment.castText cast) (.hole number :: cast.toList.map .cast) rest := by
  cases cast with
  | none =>
    refine (scans_number number fun c hc => ?_).append (scans_nil rest)
    obtain rfl | rfl | rfl := hrest c hc <;> rfl
  | some type =>
    refine (scans_number number fun c hc => ?_).append (scans_cast (hcast type rfl) hrest)
    cases hc
    rfl

example : tokenize "\"say \"\"hi\"\"\" <> $12::int4".toList =
    some [.name "say \"hi\"", .sign "<>", .hole 12, .cast "int4"] := rfl

end RecordService.Sql
