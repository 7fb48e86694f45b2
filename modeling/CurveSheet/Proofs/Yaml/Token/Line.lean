/-
# Starts of lines

A line of a block is a key with its colon and what stands behind it, perhaps with a dash in
front.  From the start of a line (`BeforeLine`) the scanner takes a key and its colon in two
steps (`exists_runs_key`) and a dash in one (`exists_runs_dash`).  At the end of the text it
ends all blocks (`exists_run_eq_end`).
-/

import CurveSheet.Proofs.Yaml.Scalar.WordChars
import CurveSheet.Proofs.Yaml.Token.Fetch
import CurveSheet.Proofs.Yaml.Token.Run

namespace CurveSheet
namespace Yaml
namespace Scanner

open Text (byteCount)

/-! ### Starts of lines -/

/-- The scanner is inside `level` blocks, has tokens of some kinds, and comes next to the text
`body`, which starts a line at a column. -/
structure BeforeLine (level column : Nat) (body : List Char) (kinds : List TokenKind)
    (s : Scanner) : Prop where
  exists_eq : ∃ cursor tokens keyAllowed mark, s = inBlocks level cursor tokens keyAllowed ∧
    kindsOf tokens = kinds ∧ mark.column = column ∧
    gapFrom false keyAllowed false cursor.mark cursor.rest = (true, ⟨body, mark⟩)

/-- A line may start with the text: its first character belongs to a token. -/
structure StartsLine (body : List Char) : Prop where
  token : body.head?.all startsToken = true
  order : body.head? ≠ some '\ufeff'

theorem StartsLine.any_isSeparator {body : List Char} (h : StartsLine body) :
    body.head?.any isSeparator = false := by
  cases body with
  | nil => rfl
  | cons c body =>
    have hc : startsToken c = true := h.token
    rw [startsToken, Bool.and_eq_true, Bool.not_eq_true'] at hc
    exact hc.1

/-- A line starts behind a line end and indentation. -/
theorem beforeLine_newline {level column : Nat} {body : List Char} (tokens : List Token)
    (mark : Mark) (keyAllowed : Bool) (hbody : StartsLine body) :
    BeforeLine level column body (kindsOf tokens)
      (inBlocks level ⟨'\n' :: (List.replicate column ' ' ++ body), mark⟩ tokens keyAllowed) := by
  refine ⟨_, tokens, keyAllowed, (mark.down 1).pastAll (List.replicate column ' '), rfl, rfl, ?_,
    ?_⟩
  · rw [column_pastAll, column_down, List.length_replicate, Nat.zero_add]
  · rw [gapFrom_newline, gapFrom_spaces, gapFrom_stop hbody.token (.inr hbody.order)]

/-- A line starts here. -/
theorem beforeLine_here {level : Nat} {body : List Char} (tokens : List Token) (mark : Mark)
    (hbody : StartsLine body) :
    BeforeLine level mark.column body (kindsOf tokens) (inBlocks level ⟨body, mark⟩ tokens true) :=
  ⟨_, tokens, true, mark, rfl, rfl, rfl, gapFrom_stop hbody.token (.inr hbody.order)⟩

/-- What the move from one number of blocks to another leaves. -/
def blockMoves (level target : Nat) : List TokenKind :=
  if level < target then [.blockMappingStart] else List.replicate (level - target) .blockEnd

/-- The scanner comes next to the text `body`, which starts an entry of a block inside `n` others.
Its tokens are of some kinds, once the blocks inside that block are ended, or that block itself
is started. -/
structure BeforeEntry (n : Nat) (body : List Char) (kinds : List TokenKind) (s : Scanner) :
    Prop where
  exists_eq : ∃ level earlier, n ≤ level ∧ BeforeLine level (indentStep * n) body earlier s ∧
    kinds = earlier ++ blockMoves level (n + 1)

theorem BeforeLine.beforeEntry {level n : Nat} {body : List Char} {kinds : List TokenKind}
    {s : Scanner} (h : BeforeLine level (indentStep * n) body kinds s) (hn : n ≤ level) :
    BeforeEntry n body (kinds ++ blockMoves level (n + 1)) s := ⟨level, kinds, hn, h, rfl⟩

/-- An entry of a block ends the blocks inside that block. -/
theorem exists_unindent_entry {level n : Nat} {body : List Char} {mark : Mark}
    (tokens : List Token) (hmark : mark.column = indentStep * n) (hn : n + 1 ≤ level) :
    ∃ tokens', kindsOf tokens' = kindsOf tokens ++ blockMoves level (n + 1) ∧
      (inBlocks level ⟨body, mark⟩ tokens true).unindent mark.column =
        inBlocks (n + 1) ⟨body, mark⟩ tokens' true := by
  have hle : levelIndent (n + 1) ≤ (mark.column : Int) := by
    rw [hmark]
    exact Int.le_refl _
  have hlt : (mark.column : Int) < levelIndent (n + 1 + 1) := by
    rw [hmark, levelIndent, Nat.mul_succ]
    exact Int.ofNat_lt.2 (Nat.lt_add_of_pos_right (by decide))
  rw [blockMoves, if_neg (Nat.not_lt.2 hn)]
  exact exists_unindent_eq hn hle hlt

/-- A key does so too, unless it will start the block that it is in. -/
theorem exists_unindent_key {level n : Nat} {body : List Char} {mark : Mark}
    (tokens : List Token) (hmark : mark.column = indentStep * n) (hn : n ≤ level) :
    ∃ target tokens', target ≤ n + 1 ∧ n ≤ target ∧
      kindsOf tokens' ++ (if target < n + 1 then [.blockMappingStart] else []) =
        kindsOf tokens ++ blockMoves level (n + 1) ∧
      (inBlocks level ⟨body, mark⟩ tokens true).unindent mark.column =
        inBlocks target ⟨body, mark⟩ tokens' true := by
  rcases Nat.eq_or_lt_of_le hn with rfl | hinside
  · refine ⟨n, tokens, Nat.le_succ n, Nat.le_refl n, ?_, unindent_eq_self ?_⟩
    · rw [blockMoves, if_pos (Nat.lt_succ_self n), if_pos (Nat.lt_succ_self n)]
    · rw [hmark]
      exact levelIndent_mono (Nat.le_succ n)
  · obtain ⟨tokens', hkinds, hends⟩ := @exists_unindent_entry level n body mark tokens hmark hinside
    refine ⟨n + 1, tokens', Nat.le_refl _, Nat.le_succ n, ?_, hends⟩
    rw [if_neg (Nat.lt_irrefl _), List.append_nil, hkinds]

/-- Gaps do not lengthen a text. -/
theorem length_gapFrom_le (inFlow keyAllowed inComment : Bool) (mark : Mark) (text : List Char) :
    (gapFrom inFlow keyAllowed inComment mark text).2.rest.length ≤ text.length := by
  fun_induction gapFrom inFlow keyAllowed inComment mark text <;>
    simp only [List.length_cons, List.length_nil, Nat.le_refl] at * <;> omega

/-! ### Keys -/

/-- The key of a field: some letters. -/
structure IsName (name : List Char) : Prop where
  ne_nil : name ≠ []
  letters : ∀ c ∈ name, isLetter c = true
  short : byteCount name ≤ simpleKeyLimit

/-- A line may start with the key of a field. -/
theorem IsName.startsLine {name : List Char} (h : IsName name) (after : List Char) :
    StartsLine (name ++ after) := by
  obtain ⟨c, letters, rfl⟩ := List.exists_cons_of_ne_nil h.ne_nil
  have hc := h.letters c (List.mem_cons_self ..)
  refine ⟨?_, fun horder => ne_of_isLetter hc (by decide) (Option.some.inj horder)⟩
  rw [List.cons_append, List.head?_cons, Option.all_some, startsToken,
    isSeparator_eq_false_of_isWordChar (isWordChar_of_isLetter hc),
    bne_iff_ne.2 (ne_of_isLetter hc (by decide))]
  rfl

/-- A key is read up to its colon. -/
theorem plainWord_name {name after : List Char} (hname : ∀ c ∈ name, isLetter c = true)
    (hafter : endsWord after.head? = true) :
    plainWord false (name ++ ':' :: after) = some (name, ':' :: after) := by
  induction name with
  | nil =>
    rw [List.nil_append, plainWord, if_neg (by decide), Bool.false_and, Bool.false_and,
      if_neg Bool.false_ne_true, if_pos (by rw [hafter]; rfl)]
  | cons c name ih =>
    have hc := hname c (List.mem_cons_self ..)
    have hseparator := isSeparator_eq_false_of_isWordChar (isWordChar_of_isLetter hc)
    have hcolon : (c == ':') = false := beq_eq_false_iff_ne.2 (ne_of_isLetter hc (by decide))
    rw [List.cons_append, plainWord, if_neg (by rw [hseparator]; decide),
      Bool.false_and, Bool.false_and, if_neg Bool.false_ne_true, hcolon, Bool.false_and,
      Bool.false_and, Bool.false_or, if_neg Bool.false_ne_true,
      ih fun d hd => hname d (List.mem_cons_of_mem _ hd), Option.map_some]

theorem plain_name {name after : List Char} (hname : IsName name)
    (hafter : endsWord after.head? = true) (floor : Nat) (mark : Mark) :
    (⟨name ++ ':' :: after, mark⟩ : Cursor).plain false floor =
      some ⟨name, false, ⟨':' :: after, mark.pastAll name⟩⟩ := by
  obtain ⟨c, letters, rfl⟩ := List.exists_cons_of_ne_nil hname.ne_nil
  have hc := hname.letters c (List.mem_cons_self ..)
  have hhead {d : Char} (hd : isLetter d = false) :
      (⟨c :: letters ++ ':' :: after, mark⟩ : Cursor).atMarker d = false :=
    atMarker_eq_false (.inr fun heq => ne_of_isLetter hc hd (Option.some.inj heq))
  have hcomment : ((⟨c :: letters ++ ':' :: after, mark⟩ : Cursor).peek == some '#') = false :=
    beq_eq_false_iff_ne.2 fun heq => ne_of_isLetter hc (by decide) (Option.some.inj heq)
  rw [Cursor.plain, plainFrom, Cursor.atDocumentMarker, hhead (by decide), hhead (by decide),
    hcomment, Bool.or_false, Bool.or_false, if_neg Bool.false_ne_true,
    plainWord_name hname.letters hafter]
  rfl

/-- The scanner inside blocks, behind what may be a key. -/
def behindKey (level : Nat) (cursor : Cursor) (tokens : List Token) (key : SimpleKey) : Scanner :=
  { inBlocks level cursor tokens false with key := some key }

theorem expireKeys_behindKey {level : Nat} {cursor : Cursor} {tokens : List Token} {key : SimpleKey}
    (h : isFresh cursor.mark key = true) : (behindKey level cursor tokens key).expireKeys =
      some (behindKey level cursor tokens key) := by
  have hkey : expire (behindKey level cursor tokens key).cursor.mark
      (behindKey level cursor tokens key).key = some (some key) := by
    change expire cursor.mark (some key) = _
    rw [expire, if_pos h]
  rw [expireKeys, hkey]
  rfl

/-- The tokens of a key and its colon. -/
def keyKinds (name : List Char) : List TokenKind := [.key, .scalar name .plain, .value]

/-- A key is taken, and its colon is expected. -/
theorem step_name {level : Nat} {name after : List Char} {cursor : Cursor}
    {tokens tokens' : List Token} {keyAllowed : Bool} {mark : Mark} {target : Nat}
    (hname : IsName name) (hafter : endsWord after.head? = true)
    (hgap : gapFrom false keyAllowed false cursor.mark cursor.rest =
      (true, ⟨name ++ ':' :: after, mark⟩))
    (hends : (inBlocks level ⟨name ++ ':' :: after, mark⟩ tokens true).unindent mark.column =
      inBlocks target ⟨name ++ ':' :: after, mark⟩ tokens' true) :
    (inBlocks level cursor tokens keyAllowed).step =
      some (behindKey target ⟨':' :: after, mark.pastAll name⟩
        (⟨.scalar name .plain, mark, mark.pastAll name⟩ :: tokens')
        ⟨tokens'.length, mark, levelIndent target == (mark.column : Int)⟩) := by
  obtain ⟨c, letters, hcons⟩ := List.exists_cons_of_ne_nil hname.ne_nil
  have hc := hname.letters c (hcons ▸ List.mem_cons_self ..)
  have hstart :
      StartsPlain (⟨name ++ ':' :: after, mark⟩ : Cursor) c (letters ++ ':' :: after) := by
    refine ⟨by rw [hcons]; rfl, isSeparator_eq_false_of_isWordChar (isWordChar_of_isLetter hc),
      isOpening_eq_false_of_isWordChar (isWordChar_of_isLetter hc),
      ?_, .inr ⟨ne_of_isLetter hc (by decide), ne_of_isLetter hc (by decide)⟩⟩
    rintro (rfl | rfl | rfl) <;> exact absurd hc (by decide)
  rw [step_inBlocks hgap hends]
  have hfetch := @fetch_plain (inBlocks target ⟨name ++ ':' :: after, mark⟩ tokens' true) c
    (letters ++ ':' :: after) hstart rfl
  rw [show (⟨name ++ ':' :: after, mark⟩ : Cursor).rest = c :: (letters ++ ':' :: after) from
    hstart.rest_eq]
  dsimp only
  have hkey : (inBlocks target ⟨name ++ ':' :: after, mark⟩ tokens' true).openKey =
      some { inBlocks target ⟨name ++ ':' :: after, mark⟩ tokens' true with
        key := some ⟨tokens'.length, mark, levelIndent target == (mark.column : Int)⟩ } := rfl
  rw [hfetch, fetchPlain_eq hkey (plain_name hname hafter _ mark)]
  rfl

/-- A token goes between those that were before and the later ones. -/
theorem emitAt_append {s : Scanner} {later earlier : List Token} (h : s.tokens = later ++ earlier)
    (kind : TokenKind) (mark : Mark) : s.emitAt earlier.length kind mark =
      { s with tokens := later ++ ⟨kind, mark, mark⟩ :: earlier } := by
  have hlength : s.tokens.length - earlier.length = later.length := by
    rw [h, List.length_append, Nat.add_sub_cancel]
  rw [emitAt, hlength, h, List.take_left, List.drop_left]

theorem startBlock_of_lt {s : Scanner} {column : Nat} (hflow : s.inFlow = false)
    (h : s.indent < (column : Int)) (before : Nat) (kind : TokenKind) (mark : Mark) :
    s.startBlock column before kind mark = { s.emitAt before kind mark with
      indent := column, outerIndents := s.indent :: s.outerIndents } := by
  rw [startBlock, hflow, if_neg Bool.false_ne_true, if_pos h]

theorem startBlock_of_not_lt {s : Scanner} {column : Nat} (hflow : s.inFlow = false)
    (h : ¬ s.indent < (column : Int)) (before : Nat) (kind : TokenKind) (mark : Mark) :
    s.startBlock column before kind mark = s := by
  rw [startBlock, hflow, if_neg Bool.false_ne_true, if_neg h]

theorem skipGap_behindKey {level : Nat} {after : List Char} {colon : Mark} {tokens : List Token}
    {key : SimpleKey} : (behindKey level ⟨':' :: after, colon⟩ tokens key).skipGap =
      behindKey level ⟨':' :: after, colon⟩ tokens key := by
  have hstop : gapFrom false false false colon (':' :: after) = (false, ⟨':' :: after, colon⟩) :=
    gapFrom_stop rfl (.inr (by simp))
  exact skipGap_eq hstop

/-- Behind a key its colon is taken next. -/
theorem step_behindKey {level : Nat} {after : List Char} {colon : Mark} {tokens : List Token}
    {key : SimpleKey} (hfresh : isFresh colon key = true)
    (hright : levelIndent level ≤ (colon.column : Int)) (hafter : endsWord after.head? = true) :
    (behindKey level ⟨':' :: after, colon⟩ tokens key).step =
      (behindKey level ⟨':' :: after, colon⟩ tokens key).fetchColon := by
  rw [step, skipGap_behindKey, expireKeys_behindKey hfresh]
  dsimp only
  rw [unindent_eq_self hright]
  exact fetch_colon rfl hafter

/-- The token of a key goes before what was read as its text. -/
theorem fetchColon_behindKey {level : Nat} {cursor : Cursor} {token : Token}
    {tokens : List Token} {mark : Mark} {required : Bool} :
    (behindKey level cursor (token :: tokens) ⟨tokens.length, mark, required⟩).fetchColon =
      some { (((behindKey level cursor (token :: ⟨.key, mark, mark⟩ :: tokens)
        ⟨tokens.length, mark, required⟩).startBlock mark.column tokens.length .blockMappingStart
          mark).take 1 .value) with key := none, keyAllowed := false } := by
  have hkey := @emitAt_append (behindKey level cursor (token :: tokens)
    ⟨tokens.length, mark, required⟩) [token] tokens rfl .key mark
  change some { ((((behindKey level _ _ _).emitAt tokens.length .key mark).startBlock _ _ _
    _).take 1 .value) with key := none, keyAllowed := false } = _
  rw [hkey]
  rfl

/-- The colon of a key makes it one, and starts a block if the key lies further to the right. -/
theorem step_colon {level target : Nat} {after : List Char} {mark colon : Mark} {token : Token}
    {tokens : List Token} {required : Bool} (htarget : target ≤ level + 1) (hle : level ≤ target)
    (hmark : (mark.column : Int) = levelIndent target) (hafter : endsWord after.head? = true)
    (hcolumn : mark.column < colon.column)
    (hfresh : isFresh colon ⟨tokens.length, mark, required⟩ = true) :
    ∃ tokens', kindsOf tokens' = kindsOf tokens ++
        (if level < target then [.blockMappingStart] else []) ++ [.key, token.kind] ++ [.value] ∧
      (behindKey level ⟨':' :: after, colon⟩ (token :: tokens)
        ⟨tokens.length, mark, required⟩).step =
          some (inBlocks target ⟨after, colon.past ':'⟩ tokens' false) := by
  have hright : levelIndent level ≤ (colon.column : Int) := by
    have := levelIndent_mono hle
    omega
  rw [step_behindKey hfresh hright hafter, fetchColon_behindKey]
  by_cases hlt : level < target
  · obtain rfl : target = level + 1 := by omega
    have hstart := @emitAt_append (behindKey level ⟨':' :: after, colon⟩
      (token :: ⟨.key, mark, mark⟩ :: tokens) ⟨tokens.length, mark, required⟩)
        [token, ⟨.key, mark, mark⟩] tokens rfl .blockMappingStart mark
    have hinside : levelIndent level < (mark.column : Int) := by
      rw [hmark]
      cases level with
      | zero => exact Int.lt_add_one_of_le (Int.le_refl _)
      | succ level => simp only [levelIndent, indentStep]; omega
    refine ⟨⟨.value, colon, colon.past ':'⟩ :: token :: ⟨.key, mark, mark⟩ ::
      ⟨.blockMappingStart, mark, mark⟩ :: tokens, ?_, ?_⟩
    · rw [if_pos hlt]
      simp only [kindsOf_cons, List.append_assoc, List.cons_append, List.nil_append]
    · rw [startBlock_of_lt rfl hinside, hstart, inBlocks, ← hmark]
      rfl
  · obtain rfl : target = level := by omega
    have hsame : ¬ levelIndent target < (mark.column : Int) := by omega
    refine ⟨⟨.value, colon, colon.past ':'⟩ :: token :: ⟨.key, mark, mark⟩ :: tokens, ?_, ?_⟩
    · rw [if_neg hlt]
      simp only [kindsOf_cons, List.append_assoc, List.cons_append, List.nil_append]
    · rw [startBlock_of_not_lt rfl hsame]
      rfl

/-- **A key and its colon** are taken in two steps, with the moves between blocks before them. -/
theorem exists_runs_key {n : Nat} {name after : List Char} {kinds : List TokenKind}
    {s : Scanner} (h : BeforeEntry n (name ++ ':' :: after) kinds s)
    (hname : IsName name) (hafter : endsWord after.head? = true) :
    ∃ mark tokens, indentStep * n < mark.column ∧ kindsOf tokens = kinds ++ keyKinds name ∧
      Runs s (inBlocks (n + 1) ⟨after, mark⟩ tokens false) := by
  obtain ⟨level, _, hn, hline, rfl⟩ := h.exists_eq
  obtain ⟨cursor, tokens, keyAllowed, mark, rfl, rfl, hmark, hgap⟩ := hline.exists_eq
  obtain ⟨target, tokens', htarget, hle, hkinds, hends⟩ :=
    @exists_unindent_key level n (name ++ ':' :: after) mark tokens hmark hn
  have hfirst := step_name hname hafter hgap hends
  have hfresh : ∀ required,
      isFresh (mark.pastAll name) ⟨tokens'.length, mark, required⟩ = true := by
    intro required
    have hline : mark.line = (mark.pastAll name).line := rfl
    rw [isFresh, hline, beq_self_eq_true, Bool.true_and, decide_eq_true_eq]
    exact Nat.add_le_add_left hname.short _
  have hlength : 0 < name.length := List.length_pos_iff.2 hname.ne_nil
  obtain ⟨tokens'', hkinds', hsecond⟩ := @step_colon target (n + 1) after mark (mark.pastAll name)
    ⟨.scalar name .plain, mark, mark.pastAll name⟩ tokens' _ (by omega) htarget (by rw [hmark]; rfl)
    hafter (by rw [column_pastAll]; omega) (hfresh (levelIndent target == (mark.column : Int)))
  have hgapLength := length_gapFrom_le false keyAllowed false cursor.mark cursor.rest
  rw [hgap, List.length_append, List.length_cons] at hgapLength
  refine ⟨(mark.pastAll name).past ':', tokens'', ?_, ?_, ?_⟩
  · rw [column_past, column_pastAll]
    omega
  · rw [hkinds', hkinds, keyKinds]
    simp only [List.append_assoc, List.cons_append, List.nil_append]
  · refine (Runs.of_step hfirst (expireKeys_behindKey (hfresh _)) rfl ?_).trans
      (Runs.of_step hsecond expireKeys_inBlocks ?_ ?_)
    · change (':' :: after).length < cursor.rest.length
      rw [List.length_cons]
      omega
    · exact atEnd_eq_false hkinds' (by simp)
    · exact Nat.lt_succ_self _

/-! ### Dashes and the end -/

/-- **A dash** before a field is one token, and the line goes on behind it as if it started
there. -/
theorem exists_runs_dash {level n : Nat} {body : List Char} {kinds : List TokenKind} {s : Scanner}
    (h : BeforeLine level (indentStep * n) ('-' :: ' ' :: body) kinds s) (hn : n + 1 ≤ level)
    (hbody : StartsLine body) :
    ∃ t, Runs s t ∧ BeforeLine (n + 1) (indentStep * (n + 1)) body
      (kinds ++ (blockMoves level (n + 1) ++ [.blockEntry])) t := by
  obtain ⟨cursor, tokens, keyAllowed, mark, rfl, rfl, hmark, hgap⟩ := h.exists_eq
  obtain ⟨tokens', hkinds, hends⟩ :=
    @exists_unindent_entry level n ('-' :: ' ' :: body) mark tokens hmark hn
  have hsame : ¬ levelIndent (n + 1) < (mark.column : Int) := by
    rw [hmark, levelIndent]
    exact Int.lt_irrefl _
  have hdash : (inBlocks (n + 1) ⟨'-' :: ' ' :: body, mark⟩ tokens' true).fetchDash =
      some (inBlocks (n + 1) ⟨' ' :: body, mark.past '-'⟩
        (⟨.blockEntry, mark, mark.past '-'⟩ :: tokens') true) := by
    have hhere : (inBlocks (n + 1) ⟨'-' :: ' ' :: body, mark⟩ tokens' true).startBlockHere
        .blockSequenceStart = some (inBlocks (n + 1) ⟨'-' :: ' ' :: body, mark⟩ tokens' true) :=
      congrArg some (startBlock_of_not_lt rfl hsame _ _ _)
    rw [fetchDash, hhere, Option.bind_some, dropKey_inBlocks]
    rfl
  have hstep := (step_inBlocks hgap hends).trans ((fetch_dash rfl).trans hdash)
  have hlength := length_gapFrom_le false keyAllowed false cursor.mark cursor.rest
  rw [hgap, List.length_cons] at hlength
  refine ⟨_, Runs.of_step hstep expireKeys_inBlocks ?_ hlength, ?_⟩
  · exact atEnd_eq_false (kindsOf_cons _ _) (by simp)
  · refine ⟨_, _, _, (mark.past '-').past ' ', rfl, ?_, ?_, ?_⟩
    · rw [kindsOf_cons, hkinds, List.append_assoc]
    · rw [column_past, column_past, hmark, Nat.mul_succ]
      rfl
    · rw [gapFrom_space, gapFrom_stop hbody.token (.inr hbody.order)]

/-- **At the end of the text** all blocks end. -/
theorem exists_run_eq_end {level : Nat} {kinds : List TokenKind} {s : Scanner}
    (h : BeforeLine level 0 [] kinds s) (hlevel : 1 ≤ level) {fuel : Nat}
    (hfuel : s.cursor.rest.length + 1 < fuel) :
    kindsOf (run none fuel s) = kinds ++ (blockMoves level 1 ++ [.blockEnd, .streamEnd]) := by
  obtain ⟨cursor, tokens, keyAllowed, mark, rfl, rfl, hmark, hgap⟩ := h.exists_eq
  obtain ⟨tokens', hkinds, hends⟩ := @exists_unindent_entry level 0 [] mark tokens hmark hlevel
  obtain ⟨tokens'', hkinds', hends'⟩ := @exists_unindent_eq 1 ⟨[], mark⟩ tokens' true (-1) 0
    (Nat.zero_le 1) (Int.le_refl _) (by decide)
  have hend : (inBlocks 1 ⟨[], mark⟩ tokens' true).fetchEnd =
      some (inBlocks 0 ⟨[], mark⟩ (⟨.streamEnd, mark, mark⟩ :: tokens'') false) := by
    have hhere : (inBlocks 1 ⟨[], mark⟩ tokens' true).cursor.mark.column = 0 := hmark
    rw [fetchEnd]
    simp only [if_pos hhere]
    change Option.map _ ((inBlocks 1 ⟨[], mark⟩ tokens' true).unindent (-1)).dropKey = _
    rw [hends', dropKey_inBlocks]
    rfl
  have hstep := (step_inBlocks hgap hends).trans hend
  rw [run_eq_of_step hstep expireKeys_inBlocks rfl hfuel]
  change kindsOf (_ :: tokens'') = _
  rw [kindsOf_cons, hkinds', hkinds]
  simp only [List.append_assoc]
  rfl

end Scanner
end Yaml
end CurveSheet
