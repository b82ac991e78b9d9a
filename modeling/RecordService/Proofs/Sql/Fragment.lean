import Mathlib.Data.List.Basic
import RecordService.Proofs.Sql.Token
/-!
# Fragments — numbering and tokens

A fragment has holes, each with a cast and a value (`Fragment.holes`), and its parameters are the values in them.
Fragments are put side by side: the holes of the second are numbered after those of the first (`write_append`,
`holes_append`).  A fragment says which tokens it stands for (`Fragment.tokens`), and its text scans as these tokens
before whatever may follow it (`Lexes`); joining and parenthesizing keep that.
-/
namespace RecordService.Fragment

open Sql (Token Scan Scans Delimited tokenize)

/-! ## Holes -/

/-- The casts and the values of the holes, from left to right. -/
def holes : Fragment → List (Option String × Json)
  | [] => []
  | .words _ :: rest => holes rest
  | .name _ :: rest => holes rest
  | .hole cast value :: rest => (cast, value) :: holes rest

theorem params_eq_holes (f : Fragment) : f.params = f.holes.map Prod.snd := by
  induction f with
  | nil => rfl
  | cons piece f ih =>
    cases piece with
    | hole cast value => exact congrArg (value :: ·) ih
    | _ => exact ih

theorem holes_of_params_nil {f : Fragment} (h : f.params = []) : f.holes = [] :=
  List.map_eq_nil_iff.1 ((params_eq_holes f).symm.trans h)

@[simp] theorem holes_append (f g : Fragment) : holes (f ++ g) = f.holes ++ g.holes := by
  induction f with
  | nil => rfl
  | cons piece f ih =>
    cases piece with
    | hole cast value => exact congrArg ((cast, value) :: ·) ih
    | _ => exact ih

theorem holes_joined (separator : String) : ∀ fs : List Fragment, (joined separator fs).holes = fs.flatMap holes
  | [] => rfl
  | [f] => (List.append_nil _).symm
  | f :: g :: rest => by
    rw [joined, holes_append, holes_append, holes_joined separator (g :: rest), List.flatMap_cons]
    exact congrArg (· ++ _) (List.append_nil _)

theorem holes_parenthesized (f : Fragment) : (parenthesized f).holes = f.holes := by
  rw [parenthesized, holes_append, holes_append]
  exact List.append_nil _

/-! ### Parameters -/

@[simp] theorem params_append (f g : Fragment) : params (f ++ g) = params f ++ params g := by
  simp only [params_eq_holes, holes_append, List.map_append]

theorem params_joined (separator : String) (fs : List Fragment) : (joined separator fs).params = fs.flatMap params := by
  rw [params_eq_holes, holes_joined, List.map_flatMap]
  exact List.flatMap_congr fun f _ => (params_eq_holes f).symm

@[simp] theorem params_parenthesized (f : Fragment) : params (parenthesized f) = params f := by
  rw [params_eq_holes, holes_parenthesized, params_eq_holes]

theorem params_commas_nil {α : Type} {f : α → Fragment} (hf : ∀ a, (f a).params = []) (l : List α) :
    (commas (l.map f)).params = [] := by
  rw [commas, params_joined, List.flatMap_map]
  exact List.flatMap_eq_nil_iff.2 fun a _ => hf a

/-! ## Side by side -/

theorem write_append (n : Nat) (f g : Fragment) : write n (f ++ g) = write n f ++ write (n + (params f).length) g := by
  induction f generalizing n with
  | nil => rfl
  | cons piece f ih =>
    cases piece with
    | words text => rw [List.cons_append, write, write, ih, params, List.append_assoc]
    | name identifier => rw [List.cons_append, write, write, ih, params, List.append_assoc]
    | hole cast value =>
      have hnext : n + (value :: params f).length = n + 1 + (params f).length := by
        rw [List.length_cons]; omega
      rw [List.cons_append, write, write, ih, params, hnext, List.append_assoc _ _ (write _ g)]

/-- Without values the numbers do not matter. -/
theorem write_of_params_nil {f : Fragment} (h : f.params = []) (n : Nat) : write n f = write 0 f := by
  induction f with
  | nil => rfl
  | cons piece f ih =>
    cases piece with
    | words text => exact congrArg (text.toList ++ ·) (ih h)
    | name identifier => exact congrArg (quoteName identifier ++ ·) (ih h)
    | hole cast value => cases h

/-- The tokens of a fragment after `n` holes. -/
def tokens : Nat → Fragment → List Token
  | _, [] => []
  | n, .words text :: rest => (tokenize text.toList).getD [] ++ tokens n rest
  | n, .name identifier :: rest => .name identifier :: tokens n rest
  | n, .hole cast _ :: rest => .hole (n + 1) :: cast.toList.map .cast ++ tokens (n + 1) rest

theorem tokens_append (n : Nat) (f g : Fragment) :
    tokens n (f ++ g) = tokens n f ++ tokens (n + (params f).length) g := by
  induction f generalizing n with
  | nil => rfl
  | cons piece f ih =>
    cases piece with
    | words text => rw [List.cons_append, tokens, tokens, ih, params, List.append_assoc]
    | name identifier => rw [List.cons_append, tokens, tokens, ih, params]; rfl
    | hole cast value =>
      have hnext : n + (value :: params f).length = n + 1 + (params f).length := by
        rw [List.length_cons]; omega
      rw [List.cons_append, tokens, tokens, ih, params, hnext, List.append_assoc]

theorem tokens_parenthesized (n : Nat) (f : Fragment) :
    tokens n (parenthesized f) = .opening :: (tokens n f ++ [.closing]) := by
  rw [parenthesized, tokens_append, tokens_append]
  rfl

/-! ## The text of a fragment -/

/-- The fragment scans as its tokens before a rest. -/
def LexesBefore (n : Nat) (f : Fragment) (rest : List Char) : Prop := Scans (write n f) (tokens n f) rest

/-- **The fragment scans as its tokens** wherever the last of them may end. -/
def Lexes (f : Fragment) : Prop := ∀ n rest, Delimited rest → LexesBefore n f rest

theorem Lexes.tokenize {f : Fragment} (h : Lexes f) (n : Nat) : tokenize (write n f) = some (tokens n f) := by
  have hscan := h n [] Sql.delimited_nil [] rfl
  rwa [List.append_nil, List.append_nil] at hscan

theorem LexesBefore.append {n : Nat} {f g : Fragment} {rest : List Char}
    (hf : LexesBefore n f (write (n + (params f).length) g ++ rest))
    (hg : LexesBefore (n + (params f).length) g rest) : LexesBefore n (f ++ g) rest := by
  unfold LexesBefore
  rw [write_append, tokens_append]
  exact Scans.append hf hg

/-! ### Pieces -/

theorem lexesBefore_words {text : String} {ended fin : List Token} {last : Scan}
    (hrun : Scan.blank.run text.toList = some (ended, last)) (hfin : last.finish = some fin) {rest : List Char}
    (hrest : ∀ c ∈ rest.head?, last.extend c = none) (n : Nat) : LexesBefore n [.words text] rest := by
  have htokens : tokens n [.words text] = ended ++ fin := by
    rw [tokens, Sql.tokenize_of_run hrun hfin]
    exact List.append_nil _
  have hwrite : write n [.words text] = text.toList := List.append_nil _
  unfold LexesBefore
  rw [htokens, hwrite]
  exact Sql.scans_of_run hrun hfin hrest

/-- Words that end in a blank or a mark scan before anything. -/
theorem lexesBefore_words_closed {text : String} {ended fin : List Token} {last : Scan}
    (hrun : Scan.blank.run text.toList = some (ended, last)) (hfin : last.finish = some fin)
    (hlast : ∀ c, last.extend c = none) (n : Nat) (rest : List Char) : LexesBefore n [.words text] rest :=
  lexesBefore_words hrun hfin (fun c _ => hlast c) n

/-- Words that end in a word. -/
theorem lexes_words {text : String} {ended : List Token} {read : List Char}
    (hrun : Scan.blank.run text.toList = some (ended, .word read)) : Lexes [.words text] := by
  intro n rest hrest
  refine lexesBefore_words hrun rfl (fun c hc => ?_) n
  obtain rfl | rfl | rfl := hrest c hc <;> rfl

theorem lexesBefore_name (identifier : String) {rest : List Char} (hrest : rest.head? ≠ some '"') (n : Nat) :
    LexesBefore n [.name identifier] rest := by
  have hwrite : write n [.name identifier] = quoteName identifier := List.append_nil _
  unfold LexesBefore
  rw [hwrite]
  exact Sql.scans_name identifier hrest

theorem lexes_hole {cast : Option String} (hcast : ∀ type ∈ cast, ∀ c ∈ type.toList, Sql.isTypeChar c = true)
    (value : Json) : Lexes [.hole cast value] := by
  intro n rest hrest
  have hwrite : write n [.hole cast value] = '$' :: (toString (n + 1)).toList ++ castText cast := List.append_nil _
  have htokens : tokens n [.hole cast value] = .hole (n + 1) :: cast.toList.map .cast := List.append_nil _
  unfold LexesBefore
  rw [hwrite, htokens]
  exact Sql.scans_hole (n + 1) hcast hrest

/-- A name before words that begin with a blank or a colon. -/
theorem LexesBefore.named (field : String) {text : String}
    (htext : text.toList.head? = some ' ' ∨ text.toList.head? = some ':') {n : Nat} {f : Fragment} {rest : List Char}
    (h : LexesBefore n (.words text :: f) rest) : LexesBefore n (.name field :: .words text :: f) rest := by
  have hrest : (write n (.words text :: f) ++ rest).head? ≠ some '"' := by
    rw [write, List.append_assoc, List.head?_append]
    obtain htext | htext := htext <;> rw [htext, Option.some_or] <;> decide
  exact LexesBefore.append (lexesBefore_name field hrest n) h

/-- A name, words and a placeholder. -/
theorem lexes_compared (field : String) {text : String} {ts : List Token}
    (htext : text.toList.head? = some ' ' ∨ text.toList.head? = some ':')
    (hrun : Scan.blank.run text.toList = some (ts, .blank)) {cast : Option String}
    (hcast : ∀ type ∈ cast, ∀ c ∈ type.toList, Sql.isTypeChar c = true) (value : Json) :
    Lexes [.name field, .words text, .hole cast value] := by
  intro n rest hrest
  have hwords : ∀ n rest, LexesBefore n [.words text] rest := lexesBefore_words_closed hrun rfl fun _ => rfl
  exact LexesBefore.named field htext (LexesBefore.append (hwords _ _) (lexes_hole hcast value _ _ hrest))

/-! ### Groups -/

theorem lexes_nil : Lexes [] := fun _ rest _ => Sql.scans_nil rest

/-- Words that end what is before them and scan before anything. -/
structure Separates (separator : String) : Prop where
  lexes : ∀ n rest, LexesBefore n [.words separator] rest
  delimited : ∀ rest, Delimited (separator.toList ++ rest)

theorem separates_comma : Separates ", " :=
  ⟨lexesBefore_words_closed rfl rfl fun _ => rfl, fun _ => Sql.delimited_cons (.inr (.inr rfl))⟩

theorem separates_and : Separates " AND " :=
  ⟨lexesBefore_words_closed rfl rfl fun _ => rfl, fun _ => Sql.delimited_cons (.inl rfl)⟩

theorem separates_or : Separates " OR " :=
  ⟨lexesBefore_words_closed rfl rfl fun _ => rfl, fun _ => Sql.delimited_cons (.inl rfl)⟩

theorem Lexes.joined {separator : String} (hsep : Separates separator) : ∀ {fs : List Fragment},
    (∀ f ∈ fs, Lexes f) → Lexes (joined separator fs)
  | [], _ => lexes_nil
  | [f], h => h f List.mem_cons_self
  | f :: g :: rest, h => by
    obtain ⟨hf, hrest⟩ := List.forall_mem_cons.1 h
    intro n text htext
    rw [Fragment.joined, List.append_assoc]
    refine LexesBefore.append (hf _ _ ?_) (LexesBefore.append (hsep.lexes _ _) (Lexes.joined hsep hrest _ text htext))
    rw [List.singleton_append, write, List.append_assoc]
    exact hsep.delimited _

theorem LexesBefore.parenthesized {f : Fragment} (h : Lexes f) (n : Nat) (rest : List Char) :
    LexesBefore n (parenthesized f) rest := by
  have hopen : ∀ n rest, LexesBefore n [.words "("] rest := lexesBefore_words_closed rfl rfl fun _ => rfl
  have hclose : ∀ n rest, LexesBefore n [.words ")"] rest := lexesBefore_words_closed rfl rfl fun _ => rfl
  rw [Fragment.parenthesized, List.append_assoc]
  refine LexesBefore.append (hopen _ _) (LexesBefore.append (h _ _ ?_) (hclose _ _))
  exact Sql.delimited_cons (.inr (.inl rfl))

end RecordService.Fragment
