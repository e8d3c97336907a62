import BehaviorPlan.Proofs.Code.Declaration

/-! # Scanning line by line

A scan of a text is put together from scans of its lines. A line is given as a frame: fixed pieces
with names between them, where a name may even hold line feeds. Whether a declaration can start
anywhere in a frame depends on the fixed pieces only. A method is found by its declaration, and its
body ends at its own closing brace. -/
namespace BehaviorPlan.Code

open Text (isBlank isWordChar)

section Scanning

variable {cs xs rest : List Char}

/-- What a scan finds after the line that it stands in. -/
def scanAfterLine (cs : List Char) : List Method :=
  match nextLine? cs with
  | some rest => scanMethods rest
  | none => []

theorem scanMethods_of_none (h : declarationAt? cs = none) : scanMethods cs = scanAfterLine cs := by
  rw [scanMethods, scanAfterLine]
  split
  · rename_i hsome
    cases h.symm.trans hsome
  · cases nextLine? cs <;> rfl

theorem scanMethods_of_some {text : List Char} {s : Signature}
    (h : declarationAt? cs = some (text, s)) : scanMethods cs =
      ⟨String.ofList s.name, String.ofList (Text.trim text), String.ofList (nextBlock s.rest)⟩ ::
        scanAfterLine s.rest := by
  rw [scanMethods, scanAfterLine]
  split
  · rename_i hsome
    obtain ⟨rfl, rfl⟩ := Prod.mk.inj (Option.some.inj (h.symm.trans hsome))
    cases nextLine? s.rest <;> rfl
  · rename_i hnone
    cases h.symm.trans hnone

theorem scanAfterLine_append (h : '\n' ∉ xs) : scanAfterLine (xs ++ cs) = scanAfterLine cs := by
  have hdrop : (xs ++ cs).dropWhile (· ≠ '\n') = cs.dropWhile (· ≠ '\n') :=
    List.dropWhile_append_of_pos fun c hc => decide_eq_true fun he => h (he ▸ hc)
  rw [scanAfterLine, scanAfterLine, nextLine?, nextLine?, hdrop]

theorem scanAfterLine_newline (cs : List Char) : scanAfterLine ('\n' :: cs) = scanMethods cs := rfl

theorem scanMethods_nil : scanMethods [] = [] := by
  have hnone : declarationAt? [] = none := by
    apply not_declarationAt?_of_not_headed
    rintro ⟨hstart, -⟩
    simp at hstart
  rw [scanMethods_of_none hnone]
  rfl

/-- Scanning finds the methods in the text, and then what there is in the rest. -/
def Scans (cs : List Char) (methods : List Method) : Prop :=
  ∀ rest, scanMethods (cs ++ rest) = methods ++ scanMethods rest

theorem scans_nil : Scans [] [] := fun _ => rfl

theorem Scans.append {ys : List Char} {methods others : List Method} (hx : Scans xs methods)
    (hy : Scans ys others) : Scans (xs ++ ys) (methods ++ others) := by
  intro rest
  rw [List.append_assoc, hx, hy, List.append_assoc]

theorem Scans.scanMethods_eq {methods : List Method} (h : Scans cs methods) :
    scanMethods cs = methods := by
  simpa [scanMethods_nil] using h []

theorem scans_line (hn : '\n' ∉ cs) (hnone : ∀ rest, declarationAt? (cs ++ '\n' :: rest) = none) :
    Scans (cs ++ ['\n']) [] := by
  intro rest
  rw [List.append_assoc, List.singleton_append, scanMethods_of_none (hnone rest),
    scanAfterLine_append hn, scanAfterLine_newline, List.nil_append]

end Scanning

section Frames

/-- Pieces of a line, between which there are texts of words and blanks. A line feed in one of
these starts a line that nobody meant to start. -/
inductive Filled : List (List Char) → List Char → Prop
  | last (piece : List Char) : Filled [piece] piece
  | hole (piece : List Char) {hole text : List Char} {pieces : List (List Char)}
      (hhole : hole.all isHeadChar = true) (h : Filled pieces text) :
      Filled (piece :: pieces) (piece ++ (hole ++ text))

/-- Whatever is filled in, what starts with the first piece is stopped by one of the pieces. -/
def stopsInside : List (List Char) → Bool
  | [] => false
  | piece :: pieces => isStopped piece || piece.all isHeadChar && stopsInside pieces

/-- A line that starts right before one of the pieces, or earlier in what is filled in there, is
stopped. -/
def stopsEverywhere : List (List Char) → Bool
  | [] => true
  | piece :: pieces => stopsInside (piece :: pieces) && stopsEverywhere pieces

def isMuteFrame : List (List Char) → Bool
  | [] => false
  | piece :: pieces => (isIdle piece || stopsInside (piece :: pieces)) &&
      stopsEverywhere pieces && (piece :: pieces).all (!·.contains '\n')

variable {pieces : List (List Char)} {text : List Char}

theorem Filled.isStopped (h : Filled pieces text) (hstops : stopsInside pieces = true) :
    isStopped text = true := by
  induction h with
  | last piece => simpa [stopsInside] using hstops
  | hole piece hhole _ ih =>
    rw [stopsInside, Bool.or_eq_true, Bool.and_eq_true] at hstops
    rcases hstops with hpiece | ⟨hpiece, hrest⟩
    · exact isStopped_append hpiece _
    · rw [isStopped_append_of_all hpiece, isStopped_append_of_all hhole]
      exact ih hrest

theorem scanAfterLine_hole {hole : List Char} (hhole : hole.all isHeadChar = true)
    {rest : List Char} (h : isStopped rest = true) :
    scanAfterLine (hole ++ rest) = scanAfterLine rest := by
  induction hole with
  | nil => rfl
  | cons c hole ih =>
    rw [List.all_cons, Bool.and_eq_true] at hhole
    by_cases hc : c = '\n'
    · have hstopped : isStopped (hole ++ rest) = true := by
        rwa [isStopped_append_of_all hhole.2]
      rw [hc, List.cons_append, scanAfterLine_newline,
        scanMethods_of_none (declarationAt?_of_isStopped hstopped), ih hhole.2]
    · have hsplit : c :: hole ++ rest = [c] ++ (hole ++ rest) := rfl
      rw [hsplit, scanAfterLine_append (by simpa using Ne.symm hc), ih hhole.2]

theorem Filled.stops (h : Filled pieces text) (hstops : stopsEverywhere pieces = true) :
    stopsInside pieces = true ∧ stopsEverywhere pieces.tail = true := by
  cases h with
  | last piece => simpa [stopsEverywhere] using hstops
  | hole piece _ _ => exact (Bool.and_eq_true _ _).mp hstops

/-- Beyond its first piece, a filled frame holds no declaration. -/
theorem Filled.scanAfterLine_eq (h : Filled pieces text)
    (hstops : stopsEverywhere pieces.tail = true) (hn : pieces.all (!·.contains '\n') = true)
    (rest : List Char) : scanAfterLine (text ++ '\n' :: rest) = scanMethods rest := by
  induction h with
  | last piece =>
    have hpiece : '\n' ∉ piece := by simpa using hn
    rw [scanAfterLine_append hpiece, scanAfterLine_newline]
  | hole piece hhole h ih =>
    rw [List.all_cons, Bool.and_eq_true] at hn
    have hpiece : '\n' ∉ piece := by simpa using hn.1
    obtain ⟨hinside, htail⟩ := h.stops hstops
    have hstopped := isStopped_append (h.isStopped hinside) ('\n' :: rest)
    rw [List.append_assoc, scanAfterLine_append hpiece, List.append_assoc,
      scanAfterLine_hole hhole hstopped, ih htail hn.2]

theorem Filled.exists_tail {piece : List Char} (h : Filled (piece :: pieces) text) :
    ∃ tail, text = piece ++ tail := by
  cases h with
  | last => exact ⟨[], (List.append_nil _).symm⟩
  | hole => exact ⟨_, rfl⟩

theorem Filled.scans (h : Filled pieces text) (hmute : isMuteFrame pieces = true)
    {lead : List Char} (hlead : lead.all isSpaceOrTab = true) :
    Scans (lead ++ text ++ ['\n']) [] := by
  cases pieces with
  | nil => simp [isMuteFrame] at hmute
  | cons piece pieces =>
    simp only [isMuteFrame, Bool.and_eq_true, Bool.or_eq_true] at hmute
    obtain ⟨⟨hstart, hstops⟩, hn⟩ := hmute
    intro rest
    rw [List.append_assoc, List.append_assoc, List.singleton_append, List.nil_append]
    have hnone : declarationAt? (lead ++ (text ++ '\n' :: rest)) = none := by
      rcases hstart with hidle | hinside
      · obtain ⟨tail, rfl⟩ := h.exists_tail
        rw [List.append_assoc, ← List.append_assoc]
        exact declarationAt?_of_isIdle (isIdle_append_of_all hlead hidle)
      · apply declarationAt?_of_isStopped
        rw [isStopped_append_of_all (all_imp (fun _ => isHeadChar_of_isSpaceOrTab) hlead)]
        exact isStopped_append (h.isStopped hinside) _
    rw [scanMethods_of_none hnone, scanAfterLine_append (newline_not_mem_of_all hlead),
      h.scanAfterLine_eq hstops hn]

end Frames

section Blocks

theorem block_open (depth : Nat) (cs : List Char) :
    block depth ('\x7b' :: cs) = '\x7b' :: block (depth + 1) cs := by
  rw [block.eq_def]
  rfl

theorem block_close (depth : Nat) (cs : List Char) :
    block (depth + 1) ('\x7d' :: cs) = '\x7d' :: block depth cs := by
  rw [block.eq_def]
  rfl

theorem block_end (cs : List Char) : block 0 ('\x7d' :: cs) = [] := by
  rw [block.eq_def]
  rfl

theorem block_other {c : Char} (hopen : c ≠ '\x7b') (hclose : c ≠ '\x7d') (depth : Nat)
    (cs : List Char) : block depth (c :: cs) = c :: block depth cs := by
  rw [block.eq_def]
  simp [hopen, hclose]

/-- Every brace in the text has its partner there, so no block ends inside of it. -/
def Paired (cs : List Char) : Prop :=
  ∀ depth rest, block depth (cs ++ rest) = cs ++ block depth rest

theorem paired_nil : Paired [] := fun _ _ => rfl

theorem Paired.append {xs ys : List Char} (hx : Paired xs) (hy : Paired ys) :
    Paired (xs ++ ys) := by
  intro depth rest
  rw [List.append_assoc, hx, hy, List.append_assoc]

theorem paired_of_not_mem {cs : List Char} (hopen : '\x7b' ∉ cs) (hclose : '\x7d' ∉ cs) :
    Paired cs := by
  intro depth rest
  induction cs with
  | nil => rfl
  | cons c cs ih =>
    rw [List.mem_cons, not_or] at hopen hclose
    rw [List.cons_append, block_other (Ne.symm hopen.1) (Ne.symm hclose.1), ih hopen.2 hclose.2,
      List.cons_append]

theorem Paired.enclose {cs : List Char} (h : Paired cs) : Paired ('\x7b' :: (cs ++ ['\x7d'])) := by
  intro depth rest
  simp only [List.cons_append, List.append_assoc, List.nil_append]
  rw [block_open, h, block_close]

theorem nextBlock_eq {before cs rest : List Char} (hbefore : '\x7b' ∉ before) (h : Paired cs) :
    nextBlock (before ++ '\x7b' :: (cs ++ '\x7d' :: rest)) = cs := by
  have hall : before.all (· ≠ '\x7b') = true :=
    List.all_eq_true.mpr fun c hc => decide_eq_true fun he => hbefore (he ▸ hc)
  have hdrop : (before ++ '\x7b' :: (cs ++ '\x7d' :: rest)).dropWhile (· ≠ '\x7b') =
      '\x7b' :: (cs ++ '\x7d' :: rest) := dropWhile_exact hall (by decide)
  rw [nextBlock, hdrop]
  change block 0 (cs ++ '\x7d' :: rest) = cs
  rw [h, block_end, List.append_nil]

end Blocks

section Methods

def publicMethod (type name params : String) : String :=
  "public " ++ type ++ " " ++ name ++ "(" ++ params ++ ")"

/-- The type is a word that is neither a modifier nor the start of a statement, the name is a word,
and the parameters stay in the line. -/
def isReadable (type name params : String) : Bool :=
  type.toList.head?.any Name.isIdentStart && type.toList.all isWordChar &&
    !statementWords.contains type &&
    modifiers.all (fun m => !m.toList.isPrefixOf (type.toList ++ [' ']) &&
      !(type.toList ++ [' ']).isPrefixOf m.toList) &&
    name.toList.head?.any Name.isIdentStart && name.toList.all isWordChar &&
    params.toList.all isParameterChar

variable {type name params : String} {lead rest : List Char}

theorem parameters?_eq (hparams : params.toList.all isParameterChar = true) :
    parameters? name.toList (params.toList ++ ')' :: '\n' :: rest) =
      some ⟨name.toList, [], '\n' :: rest⟩ := by
  have hinside : (params.toList ++ [')']).all isParameterChar = true := by
    rw [List.all_append, hparams]
    rfl
  have hnewline : isParameterChar '\n' = false := by decide
  have hend : isSpaceOrTab ')' = false := by decide
  have hsplit : params.toList ++ ')' :: '\n' :: rest =
      (params.toList ++ [')']) ++ '\n' :: rest := by
    simp
  rw [parameters?, hsplit, takeWhile_exact hinside hnewline, dropWhile_exact hinside hnewline]
  simp [hend, atLineEnd]

theorem head?_append_of_any {p : Char → Bool} {xs ys : List Char} (h : xs.head?.any p = true) :
    (xs ++ ys).head?.any p = true := by
  cases xs with
  | nil => simp at h
  | cons x xs => exact h

theorem named?_eq (hstart : name.toList.head?.any Name.isIdentStart = true)
    (hname : name.toList.all isWordChar = true)
    (hparams : params.toList.all isParameterChar = true) :
    named? (name.toList ++ '(' :: (params.toList ++ ')' :: '\n' :: rest)) =
      some ⟨name.toList, [], '\n' :: rest⟩ := by
  have hparen : isWordChar '(' = false := by decide
  have hblank : isBlank '(' = false := by decide
  rw [named?, if_pos (head?_append_of_any hstart), takeWhile_exact hname hparen,
    dropWhile_exact hname hparen, List.dropWhile_cons_of_neg (by simp [hblank])]
  simp [parameters?_eq hparams]

theorem afterBlanks?_space {cs : List Char} (h : cs.head?.any Name.isIdentStart = true) :
    afterBlanks? (' ' :: cs) = some cs := by
  have hspace : isBlank ' ' = true := by decide
  cases cs with
  | nil => simp at h
  | cons c cs =>
    have hstart : Name.isIdentStart c = true := by simpa using h
    have hc := isBlank_of_isIdentRest (Name.isIdentRest_of_isIdentStart hstart)
    simp [afterBlanks?, hspace, hc]

theorem signature?_eq (h : isReadable type name params = true) :
    signature? (type.toList ++ ' ' :: (name.toList ++ '(' :: (params.toList ++ ')' :: '\n' :: rest)))
      = some ⟨name.toList, [], '\n' :: rest⟩ := by
  simp only [isReadable, Bool.and_eq_true] at h
  obtain ⟨⟨⟨⟨⟨⟨htypeStart, htype⟩, hstatement⟩, -⟩, hnameStart⟩, hname⟩, hparams⟩ := h
  have hword : isWordChar ' ' = false := by decide
  have htypeChar : isTypeChar ' ' = false := by decide
  have htypeChars : type.toList.all isTypeChar = true :=
    all_imp (fun _ => isTypeChar_of_isWordChar) htype
  have hnotStatement : type ∉ statementWords := by simpa using hstatement
  rw [signature?, takeWhile_exact htype hword, dropWhile_exact htypeChars htypeChar,
    String.ofList_toList, if_pos ⟨head?_append_of_any htypeStart, hnotStatement⟩,
    afterBlanks?_space (head?_append_of_any hnameStart), Option.bind_some, named?_eq hnameStart hname hparams]

theorem afterModifiers_of_some {cs : List Char} (h : afterModifier? cs = some rest) :
    afterModifiers cs = afterModifiers rest ++ [cs] := by
  rw [afterModifiers]
  split
  · rename_i hsome
    rw [Option.some.inj (h.symm.trans hsome)]
  · rename_i hnone
    cases h.symm.trans hnone

theorem afterModifiers_of_none {cs : List Char} (h : afterModifier? cs = none) :
    afterModifiers cs = [cs] := by
  rw [afterModifiers]
  split
  · rename_i hsome
    cases h.symm.trans hsome
  · rfl

theorem afterModifier?_public {cs : List Char} (h : cs.head?.any Name.isIdentStart = true) :
    afterModifier? ("public".toList ++ ' ' :: cs) = some cs := by
  have hfind : modifiers.find? (fun m => m.toList.isPrefixOf ("public".toList ++ ' ' :: cs)) =
      some "public" := by
    have hprefix : "public".toList.isPrefixOf ("public".toList ++ ' ' :: cs) = true :=
      List.isPrefixOf_iff_prefix.mpr (List.prefix_append _ _)
    simp only [modifiers, List.find?_cons, hprefix]
  have hdrop : ("public".toList ++ ' ' :: cs).drop "public".length = ' ' :: cs := by
    rw [← String.length_toList, List.drop_left]
  rw [afterModifier?, hfind, Option.bind_some, hdrop, afterBlanks?_space h]

theorem afterModifier?_type (h : isReadable type name params = true) (cs : List Char) :
    afterModifier? (type.toList ++ ' ' :: cs) = none := by
  simp only [isReadable, Bool.and_eq_true] at h
  have hmodifiers := List.all_eq_true.mp h.1.1.1.2
  have hfind : modifiers.find? (fun m => m.toList.isPrefixOf (type.toList ++ ' ' :: cs)) = none := by
    rw [List.find?_eq_none]
    intro m hm hprefix
    have hboth := hmodifiers m hm
    simp only [Bool.and_eq_true, Bool.not_eq_true', ← Bool.not_eq_true] at hboth
    have hm : m.toList <+: type.toList ++ ' ' :: cs := List.isPrefixOf_iff_prefix.mp hprefix
    have htype : type.toList ++ [' '] <+: type.toList ++ ' ' :: cs := ⟨cs, by simp⟩
    -- Of two prefixes of a text, one is a prefix of the other.
    rcases List.prefix_or_prefix_of_prefix hm htype with hle | hle
    · exact hboth.1 (List.isPrefixOf_iff_prefix.mpr hle)
    · exact hboth.2 (List.isPrefixOf_iff_prefix.mpr hle)
  rw [afterModifier?, hfind, Option.bind_none]

theorem toList_publicMethod : (publicMethod type name params).toList ++ '\n' :: rest =
    "public".toList ++ ' ' :: (type.toList ++ ' ' ::
      (name.toList ++ '(' :: (params.toList ++ ')' :: '\n' :: rest))) := by
  simp [publicMethod]

theorem trim_publicMethod :
    Text.trim (publicMethod type name params).toList = (publicMethod type name params).toList := by
  have hfirst : (publicMethod type name params).toList =
      'p' :: ("ublic " ++ type ++ " " ++ name ++ "(" ++ params ++ ")").toList := by
    simp [publicMethod]
  have hlast : (publicMethod type name params).toList =
      ("public " ++ type ++ " " ++ name ++ "(" ++ params).toList ++ [')'] := by
    simp [publicMethod]
  have hstart : Text.trimStart (publicMethod type name params).toList =
      (publicMethod type name params).toList := by
    rw [hfirst, Text.trimStart_of_not_blank (by decide)]
  rw [Text.trim, hstart, hlast, Text.trimEnd_of_not_blank (by decide)]

theorem declarationAt?_publicMethod (h : isReadable type name params = true)
    (hlead : lead.all isSpaceOrTab = true) (rest : List Char) :
    declarationAt? (lead ++ ((publicMethod type name params).toList ++ '\n' :: rest)) =
      some ((publicMethod type name params).toList, ⟨name.toList, [], '\n' :: rest⟩) := by
  have hstart : type.toList.head?.any Name.isIdentStart = true := by
    simp only [isReadable, Bool.and_eq_true] at h
    exact h.1.1.1.1.1.1
  have hdrop : (lead ++ ((publicMethod type name params).toList ++ '\n' :: rest)).dropWhile
      isSpaceOrTab = (publicMethod type name params).toList ++ '\n' :: rest := by
    rw [List.dropWhile_append_of_pos (List.all_eq_true.mp hlead), toList_publicMethod]
    rfl
  have hmodifiers : afterModifiers ((publicMethod type name params).toList ++ '\n' :: rest) =
      [type.toList ++ ' ' :: (name.toList ++ '(' :: (params.toList ++ ')' :: '\n' :: rest)),
        (publicMethod type name params).toList ++ '\n' :: rest] := by
    rw [toList_publicMethod, afterModifiers_of_some (afterModifier?_public
      (head?_append_of_any hstart)), afterModifiers_of_none (afterModifier?_type h _)]
    rfl
  have hlength : ((publicMethod type name params).toList ++ '\n' :: rest).take
      (((publicMethod type name params).toList ++ '\n' :: rest).length -
        ('\n' :: rest).length - ([] : List Char).length) =
      (publicMethod type name params).toList := by
    rw [List.length_append, Nat.add_sub_cancel, List.length_nil, Nat.sub_zero, List.take_left]
  rw [declarationAt?, hdrop, hmodifiers, List.findSome?_cons_of_isSome (by rw [signature?_eq h]; rfl),
    signature?_eq h, Option.map_some, hlength]

/-- A method is found by its declaration. What is found in its body, or after it, comes after the
method. -/
theorem scans_publicMethod (h : isReadable type name params = true)
    (hlead : lead.all isSpaceOrTab = true) {before body after : List Char} {methods : List Method}
    (hbefore : '\x7b' ∉ before) (hbody : Paired body)
    (hscans : Scans (before ++ '\x7b' :: (body ++ '\x7d' :: after)) methods) :
    Scans (lead ++ ((publicMethod type name params).toList ++
        '\n' :: (before ++ '\x7b' :: (body ++ '\x7d' :: after))))
      (⟨name, publicMethod type name params, String.ofList body⟩ :: methods) := by
  intro rest
  have hdeclaration := declarationAt?_publicMethod h hlead
    (before ++ '\x7b' :: (body ++ '\x7d' :: (after ++ rest)))
  have hnewline : '\x7b' ∉ '\n' :: before := by simpa using hbefore
  have hblock : nextBlock ('\n' :: before ++ '\x7b' :: (body ++ '\x7d' :: (after ++ rest))) =
      body := nextBlock_eq hnewline hbody
  have hrest := hscans rest
  simp only [List.append_assoc, List.cons_append] at hblock hrest ⊢
  rw [scanMethods_of_some hdeclaration, trim_publicMethod, hblock, scanAfterLine_newline, hrest,
    String.ofList_toList, String.ofList_toList]

end Methods

end BehaviorPlan.Code
