import Mathlib.Data.List.Forall2
import RecordService.Pipeline.Perform
import RecordService.Proofs.Filter.Meaning
import RecordService.Proofs.Regex.Size
/-!
# Patterns — what a text is matched with

A pattern fits a text when the text can be cut into pieces, one for each of its characters in order, where `%` takes any
piece, `_` one character, and every other character itself (`Like.Fits`).  The matcher answers for every place in the text
at once (`Like.Answers`), and taking one more character of the pattern keeps its answers right, so that it finds a way to
cut the text whenever there is one (`Like.matches?_iff`).  Up to case nothing else is different, since no other character
folds to `%` or `_` (`Text.foldCase_eq_mark_iff`).
-/
namespace RecordService

/-! ## Marks and case -/

namespace Text

/-- Every run folds to characters that are beyond the marks. -/
theorem lt_target {r : FoldRun} (hr : r ∈ foldRuns) {n : Nat} (hn : r.covers n = true) : 95 < r.target n := by
  have hleast : ∀ r ∈ foldRuns, 95 < (r.start : Int) + r.shift := by decide +kernel
  have hstart : r.start ≤ n := by
    unfold FoldRun.covers at hn
    simp only [Bool.and_eq_true, decide_eq_true_eq] at hn
    exact hn.1.1
  have hshift := hleast r hr
  unfold FoldRun.target
  omega

/-- The character of a number beyond the marks, or none at all, is not one of them. -/
theorem ofNat_ne_mark {mark : Char} (hmark : mark = '%' ∨ mark = '_') {n : Nat} (hn : 95 < n) : Char.ofNat n ≠ mark := by
  rintro rfl
  by_cases hvalid : n.isValidChar
  · have hnumber : (Char.ofNat n).toNat = n := congrArg Char.toNat (dif_pos hvalid)
    have hlow : (Char.ofNat n).toNat ≤ 95 := by obtain h | h := hmark <;> rw [h] <;> decide
    omega
  · have hnull : Char.ofNat n = '\x00' := dif_neg hvalid
    rw [hnull] at hmark
    exact absurd hmark (by decide)

/-- **A mark is folded to by itself only.** -/
theorem foldCase_eq_mark_iff {mark c : Char} (hmark : mark = '%' ∨ mark = '_') : foldCase c = mark ↔ c = mark := by
  constructor
  · intro h
    unfold foldCase foldNumber at h
    split at h
    · rename_i r hfind
      have hcovers := List.find?_some (p := fun r : FoldRun => r.covers c.toNat) hfind
      exact absurd h (ofNat_ne_mark hmark (lt_target (List.mem_of_find?_eq_some hfind) hcovers))
    · rw [Char.ofNat_toNat] at h
      exact h
  · rintro rfl
    obtain rfl | rfl := hmark <;> decide

end Text

namespace Like

/-! ## Cutting a text into pieces -/

/-- What a character of a pattern takes of a text. -/
inductive Takes (same : Char → Char → Prop) : Char → List Char → Prop where
  | run (piece : List Char) : Takes same '%' piece
  | one (c : Char) : Takes same '_' [c]
  | itself {p c : Char} : p ≠ '%' → p ≠ '_' → same p c → Takes same p [c]

/-- **The text can be cut into pieces**, one for each character of the pattern, that it takes. -/
def Fits (same : Char → Char → Prop) (pattern text : List Char) : Prop :=
  ∃ pieces : List (List Char), pieces.flatten = text ∧ List.Forall₂ (Takes same) pattern pieces

variable {same : Char → Char → Prop} {p : Char} {pattern text : List Char}

theorem fits_nil_iff : Fits same [] text ↔ text = [] := by
  constructor
  · rintro ⟨pieces, rfl, htakes⟩
    cases htakes
    rfl
  · rintro rfl
    exact ⟨[], rfl, .nil⟩

theorem fits_cons_iff : Fits same (p :: pattern) text ↔
    ∃ piece rest, text = piece ++ rest ∧ Takes same p piece ∧ Fits same pattern rest := by
  constructor
  · rintro ⟨pieces, rfl, htakes⟩
    obtain ⟨piece, pieces, hpiece, hpieces, rfl⟩ := List.forall₂_cons_left_iff.1 htakes
    exact ⟨piece, pieces.flatten, List.flatten_cons, hpiece, pieces, rfl, hpieces⟩
  · rintro ⟨piece, rest, rfl, hpiece, pieces, rfl, hpieces⟩
    exact ⟨piece :: pieces, List.flatten_cons, .cons hpiece hpieces⟩

theorem fits_run_iff : Fits same ('%' :: pattern) text ↔ ∃ piece rest, text = piece ++ rest ∧ Fits same pattern rest := by
  rw [fits_cons_iff]
  constructor
  · rintro ⟨piece, rest, h, -, hrest⟩
    exact ⟨piece, rest, h, hrest⟩
  · rintro ⟨piece, rest, h, hrest⟩
    exact ⟨piece, rest, h, .run piece, hrest⟩

theorem fits_one_iff : Fits same ('_' :: pattern) text ↔ ∃ c rest, text = c :: rest ∧ Fits same pattern rest := by
  rw [fits_cons_iff]
  constructor
  · rintro ⟨_, rest, rfl, _ | c | ⟨-, hone, -⟩, hrest⟩
    · exact ⟨c, rest, rfl, hrest⟩
    · exact absurd rfl hone
  · rintro ⟨c, rest, rfl, hrest⟩
    exact ⟨[c], rest, rfl, .one c, hrest⟩

theorem fits_itself_iff (hrun : p ≠ '%') (hone : p ≠ '_') :
    Fits same (p :: pattern) text ↔ ∃ c rest, text = c :: rest ∧ same p c ∧ Fits same pattern rest := by
  rw [fits_cons_iff]
  constructor
  · rintro ⟨_, rest, rfl, _ | _ | ⟨-, -, hsame⟩, hrest⟩
    · exact absurd rfl hrun
    · exact absurd rfl hone
    · exact ⟨_, rest, rfl, hsame, hrest⟩
  · rintro ⟨c, rest, rfl, hsame, hrest⟩
    exact ⟨[c], rest, rfl, .itself hrun hone hsame, hrest⟩

theorem fits_append_iff {more : List Char} : Fits same (pattern ++ more) text ↔
    ∃ first rest, text = first ++ rest ∧ Fits same pattern first ∧ Fits same more rest := by
  induction pattern generalizing text with
  | nil => simp [fits_nil_iff]
  | cons p pattern ih =>
    rw [List.cons_append, fits_cons_iff]
    constructor
    · rintro ⟨piece, _, rfl, hpiece, hfits⟩
      obtain ⟨first, rest, rfl, hfirst, hrest⟩ := ih.1 hfits
      exact ⟨piece ++ first, rest, (List.append_assoc ..).symm, fits_cons_iff.2 ⟨piece, first, rfl, hpiece, hfirst⟩, hrest⟩
    · rintro ⟨_, rest, rfl, hfirst, hrest⟩
      obtain ⟨piece, first, rfl, hpiece, hfirst⟩ := fits_cons_iff.1 hfirst
      exact ⟨piece, first ++ rest, List.append_assoc .., hpiece, ih.2 ⟨first, rest, rfl, hfirst, hrest⟩⟩

/-- Without marks a pattern fits the texts that are the same, character by character. -/
theorem fits_unmarked_iff (hrun : '%' ∉ pattern) (hone : '_' ∉ pattern) :
    Fits same pattern text ↔ List.Forall₂ same pattern text := by
  induction pattern generalizing text with
  | nil => rw [fits_nil_iff, List.forall₂_nil_left_iff]
  | cons p pattern ih =>
    obtain ⟨hp, hrun⟩ := not_or.1 (mt List.mem_cons.2 hrun)
    obtain ⟨hp', hone⟩ := not_or.1 (mt List.mem_cons.2 hone)
    rw [fits_itself_iff (Ne.symm hp) (Ne.symm hp'), List.forall₂_cons_left_iff]
    constructor
    · rintro ⟨c, rest, rfl, hsame, hrest⟩
      exact ⟨c, rest, hsame, (ih hrun hone).1 hrest, rfl⟩
    · rintro ⟨c, rest, hsame, hrest, rfl⟩
      exact ⟨c, rest, rfl, hsame, (ih hrun hone).2 hrest⟩

/-- A part of the text is the same as the term, character by character. -/
def Contains (same : Char → Char → Prop) (text term : List Char) : Prop :=
  ∃ part, part <:+: text ∧ List.Forall₂ same term part

/-- **Between two runs a term without marks is looked for anywhere.** -/
theorem fits_anywhere_iff {term : List Char} (hrun : '%' ∉ term) (hone : '_' ∉ term) :
    Fits same ('%' :: term ++ ['%']) text ↔ Contains same text term := by
  have hlast : ∀ rest, Fits same ['%'] rest := fun rest =>
    fits_run_iff.2 ⟨rest, [], (List.append_nil rest).symm, fits_nil_iff.2 rfl⟩
  rw [List.cons_append, fits_run_iff]
  constructor
  · rintro ⟨before, _, rfl, hfits⟩
    obtain ⟨part, after, rfl, hpart, -⟩ := fits_append_iff.1 hfits
    exact ⟨part, ⟨before, after, List.append_assoc ..⟩, (fits_unmarked_iff hrun hone).1 hpart⟩
  · rintro ⟨part, ⟨before, after, rfl⟩, hpart⟩
    have hfits : Fits same (term ++ ['%']) (part ++ after) :=
      fits_append_iff.2 ⟨part, after, rfl, (fits_unmarked_iff hrun hone).2 hpart, hlast after⟩
    exact ⟨before, part ++ after, List.append_assoc .., hfits⟩

/-! ## The matcher -/

/-- The answers tell, for every place in the text from its start to its end, whether what is left there has the property. -/
inductive Answers (holds : List Char → Prop) : List Char → List Bool → Prop where
  | last {answer : Bool} : (answer = true ↔ holds []) → Answers holds [] [answer]
  | cons {c : Char} {text : List Char} {answer : Bool} {answers : List Bool} : (answer = true ↔ holds (c :: text)) →
      Answers holds text answers → Answers holds (c :: text) (answer :: answers)

namespace Answers

variable {holds holds' : List Char → Prop} {answers : List Bool}

theorem headD_iff (h : Answers holds text answers) : answers.headD false = true ↔ holds text := by
  cases h with
  | last h => exact h
  | cons h _ => exact h

theorem congr (h : Answers holds text answers) (hiff : ∀ rest, holds rest ↔ holds' rest) : Answers holds' text answers := by
  induction h with
  | last h => exact .last (h.trans (hiff _))
  | cons h _ ih => exact .cons (h.trans (hiff _)) ih

/-- The property holds behind a piece of the text. -/
def Somewhere (holds : List Char → Prop) (text : List Char) : Prop := ∃ piece rest, text = piece ++ rest ∧ holds rest

theorem somewhere_nil_iff : Somewhere holds [] ↔ holds [] := by
  constructor
  · rintro ⟨piece, rest, h, hrest⟩
    rw [(List.append_eq_nil_iff.1 h.symm).2] at hrest
    exact hrest
  · exact fun h => ⟨[], [], rfl, h⟩

theorem somewhere_cons_iff {c : Char} : Somewhere holds (c :: text) ↔ holds (c :: text) ∨ Somewhere holds text := by
  constructor
  · rintro ⟨_ | ⟨d, piece⟩, rest, h, hrest⟩
    · exact .inl (h ▸ hrest)
    · exact .inr ⟨piece, rest, (List.cons.inj h).2, hrest⟩
  · rintro (h | ⟨piece, rest, rfl, hrest⟩)
    · exact ⟨[], c :: text, rfl, h⟩
    · exact ⟨c :: piece, rest, rfl, hrest⟩

theorem fromSomewhere (h : Answers holds text answers) : Answers (Somewhere holds) text (Like.fromSomewhere answers) := by
  induction h with
  | last h => exact .last (h.trans somewhere_nil_iff.symm)
  | @cons c text answer answers h _ ih =>
    have hlater := ih.headD_iff
    unfold Like.fromSomewhere
    generalize Like.fromSomewhere answers = later at ih hlater ⊢
    -- there is an answer for the end of the text, so some place is later
    cases later with
    | nil => cases ih
    | cons b more =>
      refine .cons ?_ ih
      rw [Bool.or_eq_true, somewhere_cons_iff]
      exact or_congr h hlater

theorem afterOne (accepts : Char → Bool) (h : Answers holds text answers) :
    Answers (fun text => ∃ c rest, text = c :: rest ∧ accepts c = true ∧ holds rest) text
      (Like.afterOne accepts text answers) := by
  induction h with
  | last _ => exact .last (by simp)
  | cons _ hrest ih =>
    unfold Like.afterOne
    refine .cons ?_ ih
    rw [Bool.and_eq_true, hrest.headD_iff]
    simp

/-- The empty pattern fits at the end of the text only. -/
theorem nil : ∀ text : List Char, Answers (Fits same []) text (text.map (fun _ => false) ++ [true])
  | [] => .last (by simp [fits_nil_iff])
  | c :: text => .cons (by simp [fits_nil_iff]) (nil text)

end Answers

/-- **The matcher answers for every place whether the rest of the pattern fits there.** -/
theorem answers_fits (text : List Char) : ∀ pattern : List Char, Answers (Fits Eq pattern) text (fits text pattern)
  | [] => Answers.nil text
  | p :: pattern => by
    have ih := answers_fits text pattern
    unfold fits
    by_cases hrun : p = '%'
    · subst hrun
      rw [if_pos rfl]
      exact ih.fromSomewhere.congr fun rest => fits_run_iff.symm
    · rw [if_neg hrun]
      by_cases hone : p = '_'
      · subst hone
        rw [if_pos rfl]
        refine (ih.afterOne _).congr fun rest => ?_
        simp only [fits_one_iff, true_and]
      · rw [if_neg hone]
        refine (ih.afterOne _).congr fun rest => ?_
        simp only [fits_itself_iff hrun hone, beq_iff_eq, eq_comm (a := p)]

theorem matches?_iff : matches? pattern text = true ↔ Fits Eq pattern text := (answers_fits text pattern).headD_iff

/-! ## Up to case -/

/-- The characters are the same, or fold to the same one. -/
def Same : Bool → Char → Char → Prop
  | false, p, c => p = c
  | true, p, c => Text.foldCase p = Text.foldCase c

section
variable {f : Char → Char} (hf : ∀ mark c, mark = '%' ∨ mark = '_' → (f c = mark ↔ c = mark))
include hf

theorem takes_map_iff {piece : List Char} :
    Takes Eq (f p) (piece.map f) ↔ Takes (fun p c => f p = f c) p piece := by
  constructor
  · intro h
    generalize hp : f p = q at h
    generalize hpiece : piece.map f = folded at h
    cases h with
    | run _ => exact (hf '%' p (.inl rfl)).1 hp ▸ .run piece
    | one c =>
      obtain ⟨d, rfl, -⟩ := List.map_eq_singleton_iff.1 hpiece
      exact (hf '_' p (.inr rfl)).1 hp ▸ .one d
    | itself hrun hone hsame =>
      obtain ⟨d, rfl, hd⟩ := List.map_eq_singleton_iff.1 hpiece
      refine .itself (fun h => hrun ?_) (fun h => hone ?_) (hp.trans (hsame.trans hd.symm))
      · exact hp.symm.trans ((hf '%' p (.inl rfl)).2 h)
      · exact hp.symm.trans ((hf '_' p (.inr rfl)).2 h)
  · intro h
    cases h with
    | run _ =>
      rw [(hf '%' '%' (.inl rfl)).2 rfl]
      exact .run _
    | one c =>
      rw [(hf '_' '_' (.inr rfl)).2 rfl]
      exact .one (f c)
    | itself hrun hone hsame => exact .itself (mt (hf '%' p (.inl rfl)).1 hrun) (mt (hf '_' p (.inr rfl)).1 hone) hsame

/-- To fold both sides is to compare what the characters fold to. -/
theorem fits_map_iff : Fits Eq (pattern.map f) (text.map f) ↔ Fits (fun p c => f p = f c) pattern text := by
  induction pattern generalizing text with
  | nil => rw [List.map_nil, fits_nil_iff, fits_nil_iff, List.map_eq_nil_iff]
  | cons p pattern ih =>
    rw [List.map_cons, fits_cons_iff, fits_cons_iff]
    simp only [List.map_eq_append_iff, ← ih, ← takes_map_iff hf]
    constructor
    · rintro ⟨_, _, ⟨piece, rest, rfl, rfl, rfl⟩, hpiece, hrest⟩
      exact ⟨piece, rest, rfl, hpiece, hrest⟩
    · rintro ⟨piece, rest, rfl, hpiece, hrest⟩
      exact ⟨_, _, ⟨piece, rest, rfl, rfl, rfl⟩, hpiece, hrest⟩

end

theorem fits_comparable_iff (ignoreCase : Bool) (pattern text : String) :
    Fits Eq (comparable ignoreCase pattern) (comparable ignoreCase text) ↔
      Fits (Same ignoreCase) pattern.toList text.toList := by
  cases ignoreCase with
  | false => exact Iff.rfl
  | true => exact fits_map_iff fun mark c hmark => Text.foldCase_eq_mark_iff hmark

/-- The automata of the pattern are not too large. -/
def Within (ignoreCase : Bool) (pattern : String) : Prop := (size ignoreCase pattern.toList).isTooLarge = false

theorem holds_iff {ignoreCase : Bool} {pattern text : String} : holds ignoreCase pattern text = true ↔
    Within ignoreCase pattern ∧ Fits (Same ignoreCase) pattern.toList text.toList := by
  unfold holds
  rw [Bool.and_eq_true, Bool.not_eq_true', matches?_iff, fits_comparable_iff]
  rfl

end Like

/-! ## Size -/

namespace Like

/-- The automata for the character are small. -/
def Small (ignoreCase : Bool) (c : Char) : Prop :=
  (charSize ignoreCase c).forward ≤ 1004 ∧ (charSize ignoreCase c).backward ≤ 1004

theorem small_mark (ignoreCase : Bool) : Small ignoreCase '%' ∧ Small ignoreCase '_' := by
  obtain ⟨hforward, hbackward⟩ := Regex.setSize_all_le
  have hrun : runSize = ⟨(Regex.setSize .all).forward + 40, (Regex.setSize .all).backward + 40⟩ := rfl
  have hany : anySize = Regex.setSize .all := rfl
  have hmarks : charSize ignoreCase '%' = runSize ∧ charSize ignoreCase '_' = anySize := ⟨rfl, rfl⟩
  unfold Small
  rw [hmarks.1, hmarks.2, hrun, hany]
  dsimp only
  omega

/-- A character that is told from others exactly. -/
theorem small_exact (c : Char) : Small false c := by
  by_cases hrun : c = '%'
  · exact hrun ▸ (small_mark false).1
  · by_cases hone : c = '_'
    · exact hone ▸ (small_mark false).2
    · have hbytes := c.utf8Size_le_four
      have hsize : charSize false c = .same (32 * c.utf8Size) := by
        unfold charSize
        rw [if_neg hrun, if_neg hone, if_neg Bool.false_ne_true, Regex.setSize_single]
      unfold Small
      rw [hsize]
      dsimp only [Regex.Size.same]
      omega

theorem foldl_size_le {ignoreCase : Bool} : ∀ (pattern : List Char) (total : Regex.Size),
    (∀ c ∈ pattern, Small ignoreCase c) →
    (pattern.foldl (fun total c => total + charSize ignoreCase c) total).forward ≤ total.forward + 1004 * pattern.length ∧
      (pattern.foldl (fun total c => total + charSize ignoreCase c) total).backward ≤
        total.backward + 1004 * pattern.length
  | [], _, _ => ⟨Nat.le_refl _, Nat.le_refl _⟩
  | c :: pattern, total, h => by
    obtain ⟨hc, hpattern⟩ := List.forall_mem_cons.1 h
    obtain ⟨hforward, hbackward⟩ := foldl_size_le pattern (total + charSize ignoreCase c) hpattern
    have hadd : (total + charSize ignoreCase c).forward = total.forward + (charSize ignoreCase c).forward := rfl
    have hadd' : (total + charSize ignoreCase c).backward = total.backward + (charSize ignoreCase c).backward := rfl
    unfold Small at hc
    rw [List.foldl_cons, List.length_cons]
    omega

/-- **Ten thousand characters are not too many** when the automata for each are small. -/
theorem within_of_small {ignoreCase : Bool} {pattern : String} (h : pattern.length ≤ 10000)
    (hsmall : ∀ c ∈ pattern.toList, Small ignoreCase c) : Within ignoreCase pattern := by
  obtain ⟨hforward, hbackward⟩ := foldl_size_le pattern.toList ⟨192, 128⟩ hsmall
  rw [String.length_toList] at hforward hbackward
  unfold Within Regex.Size.isTooLarge Regex.Size.limit
  rw [Bool.or_eq_false_iff, decide_eq_false_iff_not, decide_eq_false_iff_not]
  unfold size
  dsimp only at hforward hbackward
  omega

theorem within_of_length {pattern : String} (h : pattern.length ≤ 10000) : Within false pattern :=
  within_of_small h fun c _ => small_exact c

end Like

/-! ## Cells -/

namespace Cell

theorem like_iff (ignoreCase : Bool) (cell pattern : Json) : like ignoreCase cell pattern = true ↔
    ∃ p, pattern = .str p ∧ Like.Within ignoreCase p ∧
      Like.Fits (Like.Same ignoreCase) p.toList (patternText cell).toList := by
  unfold like
  cases pattern <;> simp [Like.holds_iff]

/-- **A cell matches a pattern exactly when its text can be cut into what the characters of the pattern take**, and a term
between two runs exactly when its text contains the term; nothing but a text is a pattern. -/
theorem like_exact (ignoreCase : Bool) (cell : Json) :
    (∀ p, Like.Within ignoreCase p → (like ignoreCase cell (.str p) = true ↔
        Like.Fits (Like.Same ignoreCase) p.toList (patternText cell).toList)) ∧
      (∀ term : String, '%' ∉ term.toList → '_' ∉ term.toList → Like.Within ignoreCase ("%" ++ term ++ "%") →
        (like ignoreCase cell (.str ("%" ++ term ++ "%")) = true ↔
          Like.Contains (Like.Same ignoreCase) (patternText cell).toList term.toList)) ∧
      ∀ pattern, (∀ p, pattern ≠ .str p) → like ignoreCase cell pattern = false := by
  have hfits : ∀ p, Like.Within ignoreCase p → (like ignoreCase cell (.str p) = true ↔
      Like.Fits (Like.Same ignoreCase) p.toList (patternText cell).toList) := by
    intro p hsize
    rw [like_iff]
    simp [hsize]
  refine ⟨hfits, fun term hrun hone hsize => ?_, fun pattern hpattern => ?_⟩
  · have hchars : ("%" ++ term ++ "%").toList = '%' :: term.toList ++ ['%'] := by simp
    rw [hfits _ hsize, hchars, Like.fits_anywhere_iff hrun hone]
  · refine Bool.eq_false_iff.2 fun h => ?_
    obtain ⟨p, hp, -⟩ := (like_iff ignoreCase cell pattern).1 h
    exact hpattern p hp

/-- A line break and a dot are characters like others, a number is matched by its digits, a letter up to case, and null is
no pattern. -/
theorem like_exact_draft :
    like false (.str "a\n.bc") (.str "%.%_c") = true ∧ like false (.num (.int 1024)) (.str "%02%") = true ∧
      like true (.str "DRAFT") (.str "%a%") = true ∧ like true (.str "null") .null = false := by
  have hletter : Like.Small true 'a' := by
    have hvariants : Text.caseVariants 'a'.toNat = [97, 65] := by decide
    have hsorted : [97, 65].mergeSort (· ≤ ·) = [65, 97] := by simp [List.mergeSort]
    have hsize : Like.charSize true 'a' = .same 80 := by
      show Regex.setSize (.ofList (Text.caseVariants 'a'.toNat)) = .same 80
      rw [hvariants, CharSet.ofList, hsorted]
      rfl
    unfold Like.Small
    rw [hsize]
    decide
  have hwithin : Like.Within true "%a%" := by
    refine Like.within_of_small (by decide) ?_
    rw [show "%a%".toList = ['%', 'a', '%'] from rfl]
    simp [hletter, Like.small_mark]
  refine ⟨((like_exact false (.str "a\n.bc")).1 "%.%_c" (Like.within_of_length (by decide))).2 ?_,
    ((like_exact false (.num (.int 1024))).2.1 "02" (by decide) (by decide) (Like.within_of_length (by decide))).2 ?_,
    ((like_exact true (.str "DRAFT")).2.1 "a" (by decide) (by decide) hwithin).2 ?_,
    (like_exact true (.str "null")).2.2 .null nofun⟩
  · exact ⟨[['a', '\n'], ['.'], [], ['b'], ['c']], rfl, .cons (.run _) (.cons (.itself (by decide) (by decide) rfl)
      (.cons (.run _) (.cons (.one _) (.cons (.itself (by decide) (by decide) rfl) .nil))))⟩
  · exact ⟨['0', '2'], ⟨['1'], ['4'], rfl⟩, .cons rfl (.cons rfl .nil)⟩
  · exact ⟨['A'], ⟨['D', 'R'], ['F', 'T'], rfl⟩, .cons rfl .nil⟩

end Cell

/-! ## Searching -/

/-- **A search finds the rows with the term in one of the fields**, in any letter case. -/
theorem Entity.satisfies_searchFor_iff {e : Entity} {term : String} (hfields : e.searchFields ≠ [])
    (hterm : Text.isAllBlank term = false) (hrun : '%' ∉ (Text.trim term).toList) (hone : '_' ∉ (Text.trim term).toList)
    (hsize : Like.Within true ("%" ++ Text.trim term ++ "%")) (row : Row) :
    row.satisfies (e.searchFor term) = true ↔ ∃ field ∈ e.searchFields, (row.cell field).isNull = false ∧
      Like.Contains (Like.Same true) (Cell.patternText (row.cell field)).toList (Text.trim term).toList := by
  have hchars : ("%" ++ Text.trim term ++ "%").toList = '%' :: (Text.trim term).toList ++ ['%'] := by simp
  have hlike : ∀ cell, Cell.like true cell (.str ("%" ++ Text.trim term ++ "%")) = true ↔
      Like.Contains (Like.Same true) (Cell.patternText cell).toList (Text.trim term).toList := by
    intro cell
    rw [Cell.like_iff, ← Like.fits_anywhere_iff hrun hone, ← hchars]
    simp [hsize]
  unfold Entity.searchFor
  rw [hterm, List.isEmpty_eq_false_iff.2 hfields, Bool.or_self, if_neg Bool.false_ne_true, Row.satisfies_singleton,
    Predicate.holds_any, List.any_map, List.any_eq_true]
  refine exists_congr fun field => and_congr_right fun _ => ?_
  simp [Predicate.holds, Comparison.holds, hlike, Json.isNull]

end RecordService
