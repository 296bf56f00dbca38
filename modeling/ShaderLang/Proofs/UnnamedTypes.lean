import Mathlib.Data.List.Induction
import ShaderLang.Proofs.IdReading
import ShaderLang.Proofs.NumericNames

/-!
# Canonical ids of types without declared names

Scalars, vectors, matrices and sampler states are written as a word with sizes behind it, arrays and
images as the id of another type with brackets around its sizes.  None of these ids has an
underscore, so underscores tell the parts of a function type and the pointers apart.  The id of a
type that is made of these types only is read in one way: it determines the type, whatever the sizes
are.
-/

namespace ShaderLang

namespace ShaderType

/-! ## Types without declared names -/

/-- Whether a type is made of scalars, vectors, matrices and sampler states by arrays, buffers and
textures only. -/
def isData : ShaderType → Bool
  | scalar _ | vector _ | matrix _ | sampler | comparisonSampler => true
  | array base _ | buffer base _ | texture1D base _ => base.isData
  | texture2D base _ _ => base.isData
  | texture3D base _ _ _ => base.isData
  | _ => false

/-- Whether a type is one of data, behind any number of pointers. -/
def isPassable : ShaderType → Bool
  | pointer base => base.isPassable
  | type => type.isData

/-- Whether a type is passable, or is the type of a function that takes and returns what is. -/
def isUnnamed : ShaderType → Bool
  | function returned parameters => returned.isPassable && parameters.all isPassable
  | type => type.isPassable

/-! ## How types of data are written -/

/-- The word and the sizes that the id of a type without parts consists of. -/
def plainParts? : ShaderType → Option (String × List Nat)
  | scalar element => some (element.name, [])
  | vector shape => some (shape.base.name, [shape.size])
  | matrix shape => some (shape.base.name, [shape.rows, shape.columns])
  | sampler => some ("SamplerState", [])
  | comparisonSampler => some ("SamplerComparisonState", [])
  | _ => none

/-- The word, the sampled type and the sizes that the id of an image type consists of. -/
def imageParts? : ShaderType → Option (String × ShaderType × List Nat)
  | buffer base size => some ("Buffer", base, [size])
  | texture1D base size => some ("Texture", base, [size])
  | texture2D base width height => some ("Texture", base, [width, height])
  | texture3D base width height depth => some ("Texture", base, [width, height, depth])
  | _ => none

/-- The type without parts that has the given word and sizes. -/
def ofPlainParts? : String × List Nat → Option ShaderType
  | (word, []) => ((Vocabulary.ofWord? word).map scalar).or (resolveObject? word)
  | (word, [size]) => (Vocabulary.ofWord? word).map fun base => vector ⟨base, size⟩
  | (word, [rows, columns]) =>
      (Vocabulary.ofWord? word).map fun base => matrix ⟨base, rows, columns⟩
  | _ => none

/-- The image type that has the given word, sampled type and sizes. -/
def ofImageParts? : String × ShaderType × List Nat → Option ShaderType
  | (word, base, [size]) => some (if word = "Buffer" then buffer base size else texture1D base size)
  | (_, base, [width, height]) => some (texture2D base width height)
  | (_, base, [width, height, depth]) => some (texture3D base width height depth)
  | _ => none

theorem ofPlainParts?_plainParts {type : ShaderType} {parts : String × List Nat}
    (isPlain : type.plainParts? = some parts) :
    ofPlainParts? parts = some type := by
  have named (element : ScalarType) : Vocabulary.ofWord? element.name = some element :=
    Vocabulary.ofWord?_word element
  cases type with
  | scalar element =>
      cases isPlain
      simp [ofPlainParts?, named]
  | vector shape =>
      cases isPlain
      simp [ofPlainParts?, named]
  | matrix shape =>
      cases isPlain
      simp [ofPlainParts?, named]
  | sampler =>
      cases isPlain
      rfl
  | comparisonSampler =>
      cases isPlain
      rfl
  | _ => cases isPlain

theorem ofImageParts?_imageParts {type : ShaderType} {parts : String × ShaderType × List Nat}
    (isImage : type.imageParts? = some parts) :
    ofImageParts? parts = some type := by
  cases type with
  | buffer base size =>
      cases isImage
      rfl
  | texture1D base size =>
      cases isImage
      rfl
  | texture2D base width height =>
      cases isImage
      rfl
  | texture3D base width height depth =>
      cases isImage
      rfl
  | _ => cases isImage

/-- Sizes with an `x` between them. -/
def crossedSizes : List Nat → List Char
  | [] => []
  | [size] => Text.digits size
  | size :: next :: rest => Text.digits size ++ 'x' :: crossedSizes (next :: rest)

/-- Sizes with a comma in front of each of them. -/
def listedSizes (sizes : List Nat) : List Char :=
  sizes.flatMap fun size => ',' :: ' ' :: Text.digits size

theorem toList_canonicalId_plain {type : ShaderType} {word : String} {sizes : List Nat}
    (isPlain : type.plainParts? = some (word, sizes)) :
    type.canonicalId.toList = word.toList ++ crossedSizes sizes := by
  cases type with
  | scalar element =>
      cases isPlain
      exact (List.append_nil _).symm
  | vector shape =>
      cases isPlain
      change shape.text.toList = shape.base.name.toList ++ Text.digits shape.size
      exact VectorType.toList_text shape.base (by simp [Text.digits])
  | matrix shape =>
      cases isPlain
      change shape.text.toList =
        shape.base.name.toList ++ (Text.digits shape.rows ++ 'x' :: Text.digits shape.columns)
      exact MatrixType.toList_text shape.base (by simp [Text.digits]) (by simp [Text.digits])
  | sampler =>
      cases isPlain
      rfl
  | comparisonSampler =>
      cases isPlain
      rfl
  | _ => cases isPlain

theorem toList_canonicalId_image {type base : ShaderType} {word : String} {sizes : List Nat}
    (isImage : type.imageParts? = some (word, base, sizes)) :
    type.canonicalId.toList =
      word.toList ++ '<' :: (base.canonicalId.toList ++ listedSizes sizes ++ ['>']) := by
  cases type with
  | buffer base size =>
      cases isImage
      change ("Buffer<" ++ base.canonicalId ++ ", " ++ toString size ++ ">").toList = _
      simp [listedSizes, Text.digits]
  | texture1D base size =>
      cases isImage
      change ("Texture<" ++ base.canonicalId ++ ", " ++ toString size ++ ">").toList = _
      simp [listedSizes, Text.digits]
  | texture2D base width height =>
      cases isImage
      change ("Texture<" ++ base.canonicalId ++ ", " ++ toString width ++ ", " ++
        toString height ++ ">").toList = _
      simp [listedSizes, Text.digits]
  | texture3D base width height depth =>
      cases isImage
      change ("Texture<" ++ base.canonicalId ++ ", " ++ toString width ++ ", " ++
        toString height ++ ", " ++ toString depth ++ ">").toList = _
      simp [listedSizes, Text.digits]
  | _ => cases isImage

/-! ## Words and sizes -/

/-- A word that the id of a type of data starts with: it is made of letters, and it does not start
like the mark of a pointer. -/
structure LeadsData (word : String) : Prop where
  letters : ∀ character ∈ word.toList, character.isAlpha = true
  start : ∃ first others, word.toList = first :: others ∧ first ≠ 'p'

theorem leadsData_scalar (element : ScalarType) : LeadsData element.name := by
  cases element <;> exact ⟨by simp [ScalarType.name], _, _, rfl, by decide⟩

theorem leadsData_of_plainParts? {type : ShaderType} {word : String} {sizes : List Nat}
    (isPlain : type.plainParts? = some (word, sizes)) :
    LeadsData word := by
  cases type with
  | scalar element =>
      cases isPlain
      exact leadsData_scalar element
  | vector shape =>
      cases isPlain
      exact leadsData_scalar shape.base
  | matrix shape =>
      cases isPlain
      exact leadsData_scalar shape.base
  | sampler =>
      cases isPlain
      exact ⟨by simp, _, _, rfl, by decide⟩
  | comparisonSampler =>
      cases isPlain
      exact ⟨by simp, _, _, rfl, by decide⟩
  | _ => cases isPlain

theorem leadsData_of_imageParts? {type base : ShaderType} {word : String} {sizes : List Nat}
    (isImage : type.imageParts? = some (word, base, sizes)) :
    LeadsData word := by
  have words : word = "Buffer" ∨ word = "Texture" := by
    cases type with
    | buffer _ _ =>
        cases isImage
        exact .inl rfl
    | texture1D _ _ =>
        cases isImage
        exact .inr rfl
    | texture2D _ _ _ =>
        cases isImage
        exact .inr rfl
    | texture3D _ _ _ _ =>
        cases isImage
        exact .inr rfl
    | _ => cases isImage
  rcases words with rfl | rfl <;> exact ⟨by simp, _, _, rfl, by decide⟩

theorem LeadsData.notMem {word : String} (leads : LeadsData word) {mark : Char}
    (noLetter : mark.isAlpha = false) :
    mark ∉ word.toList := by
  intro member
  rw [leads.letters mark member] at noLetter
  cases noLetter

theorem isAlphanum_of_mem_crossedSizes {sizes : List Nat} {character : Char}
    (member : character ∈ crossedSizes sizes) :
    character.isAlphanum = true := by
  induction sizes using crossedSizes.induct with
  | case1 => cases member
  | case2 size => simp [Char.isAlphanum, Text.isDigit_of_mem_digits member]
  | case3 size next rest inductionHypothesis =>
      rcases List.mem_append.mp member with inDigits | behind
      · simp [Char.isAlphanum, Text.isDigit_of_mem_digits inDigits]
      · rcases List.mem_cons.mp behind with rfl | later
        · rfl
        · exact inductionHypothesis later

theorem digits_ne_of_cross {size size' : Nat} {rest : List Char} :
    Text.digits size ≠ Text.digits size' ++ 'x' :: rest := by
  intro same
  have crossless : 'x' ∉ Text.digits size := Text.notMem_digits rfl size
  rw [same] at crossless
  exact crossless (List.mem_append_right _ List.mem_cons_self)

/-- Sizes with an `x` between them are told apart by their text. -/
theorem crossedSizes_injective {sizes sizes' : List Nat}
    (same : crossedSizes sizes = crossedSizes sizes') :
    sizes = sizes' := by
  induction sizes using crossedSizes.induct generalizing sizes' with
  | case1 =>
      match sizes' with
      | [] => rfl
      | [size] => exact absurd same.symm (Text.digits_ne_nil size)
      | size :: _ :: _ => exact absurd same.symm (List.append_ne_nil_of_right_ne_nil _ nofun)
  | case2 size =>
      match sizes' with
      | [] => exact absurd same (Text.digits_ne_nil size)
      | [size'] => rw [Text.digits_injective same]
      | size' :: _ :: _ => exact absurd same digits_ne_of_cross
  | case3 size next rest inductionHypothesis =>
      match sizes' with
      | [] => exact absurd same (List.append_ne_nil_of_right_ne_nil _ nofun)
      | [size'] => exact absurd same.symm digits_ne_of_cross
      | size' :: next' :: rest' =>
          obtain ⟨sameSize, sameRest⟩ := eq_of_append_mark (Text.notMem_digits rfl size)
            (Text.notMem_digits rfl size') same
          rw [Text.digits_injective sameSize, inductionHypothesis sameRest]

theorem isAlpha_eq_false_of_isDigit {character : Char} (isDigit : character.isDigit = true) :
    character.isAlpha = false := by
  have range : 48 ≤ character.toNat ∧ character.toNat ≤ 57 := by
    simpa [Char.isDigit, UInt32.le_iff_toNat_le] using isDigit
  unfold Char.isAlpha Char.isUpper Char.isLower
  simp [UInt32.le_iff_toNat_le]
  omega

/-- Sizes behind a word start with a digit. -/
theorem ends_crossedSizes (sizes : List Nat) : Text.Ends Char.isAlpha (crossedSizes sizes) := by
  have ends (size : Nat) : Text.Ends Char.isAlpha (Text.digits size) := fun _ starts =>
    isAlpha_eq_false_of_isDigit (Text.isDigit_of_mem_digits (List.mem_of_mem_head? starts))
  induction sizes using crossedSizes.induct with
  | case1 => exact Text.ends_nil _
  | case2 size => exact ends size
  | case3 size next rest _ => exact Text.ends_append _ (Text.digits_ne_nil size) (ends size)

/-- A type without parts is determined by its id. -/
theorem eq_of_plainParts? {first second : ShaderType} {parts parts' : String × List Nat}
    (isPlain : first.plainParts? = some parts)
    (isPlain' : second.plainParts? = some parts')
    (same : first.canonicalId = second.canonicalId) :
    first = second := by
  obtain ⟨word, sizes⟩ := parts
  obtain ⟨word', sizes'⟩ := parts'
  have sameText := congrArg String.toList same
  rw [toList_canonicalId_plain isPlain, toList_canonicalId_plain isPlain'] at sameText
  have letters := (leadsData_of_plainParts? isPlain).letters
  have letters' := (leadsData_of_plainParts? isPlain').letters
  have sameWord := congrArg (List.takeWhile Char.isAlpha) sameText
  rw [Text.takeWhile_append_of_ends letters (ends_crossedSizes sizes),
    Text.takeWhile_append_of_ends letters' (ends_crossedSizes sizes'), String.toList_inj] at sameWord
  subst sameWord
  obtain rfl := crossedSizes_injective (List.append_cancel_left sameText)
  have decoded := ofPlainParts?_plainParts isPlain'
  rw [ofPlainParts?_plainParts isPlain] at decoded
  exact Option.some.inj decoded

/-! ## Ids of images -/

theorem underscore_notMem_listedSizes {sizes : List Nat} : '_' ∉ listedSizes sizes := by
  intro member
  obtain ⟨size, -, inSize⟩ := List.mem_flatMap.mp member
  rcases List.mem_cons.mp inSize with isComma | behind
  · exact absurd isComma (by decide)
  · rcases List.mem_cons.mp behind with isBlank | inDigits
    · exact absurd isBlank (by decide)
    · exact Text.notMem_digits rfl size inDigits

/-- In a text that does not end like a list of sizes, something that is no digit stands behind every
blank. -/
def EndsUnlisted (text : List Char) : Prop :=
  ∀ front back, text = front ++ ' ' :: back → ∃ character ∈ back, character.isDigit = false

theorem endsUnlisted_of_notMem {text : List Char} (blankless : ' ' ∉ text) : EndsUnlisted text := by
  rintro front back rfl
  exact absurd (List.mem_append_right _ List.mem_cons_self) blankless

theorem endsUnlisted_append {text : List Char} {last : Char}
    (noDigit : last.isDigit = false)
    (noBlank : last ≠ ' ') :
    EndsUnlisted (text ++ [last]) := by
  intro front back split
  rcases append_eq_append_cons split with ⟨rest, -, rfl⟩ | ⟨inner, -, tail⟩
  · exact ⟨last, List.mem_append_right _ (List.mem_singleton_self _), noDigit⟩
  · cases inner with
    | nil => exact absurd (List.cons.inj tail).1 noBlank
    | cons first others => simp at tail

theorem listedSizes_concat (sizes : List Nat) (size : Nat) (text : List Char) :
    text ++ listedSizes (sizes ++ [size]) =
      (text ++ listedSizes sizes ++ [',']) ++ ' ' :: Text.digits size := by
  simp [listedSizes]

theorem not_endsUnlisted (text : List Char) (size : Nat) :
    ¬EndsUnlisted (text ++ ' ' :: Text.digits size) := by
  intro unlisted
  obtain ⟨character, member, noDigit⟩ := unlisted _ _ rfl
  rw [Text.isDigit_of_mem_digits member] at noDigit
  cases noDigit

/-- A list of sizes is read off the end of a text. -/
theorem eq_of_listedSizes {text text' : List Char} {sizes sizes' : List Nat}
    (unlisted : EndsUnlisted text)
    (unlisted' : EndsUnlisted text')
    (same : text ++ listedSizes sizes = text' ++ listedSizes sizes') :
    text = text' ∧ sizes = sizes' := by
  induction sizes using List.reverseRecOn generalizing sizes' with
  | nil =>
      rcases List.eq_nil_or_concat sizes' with rfl | ⟨others, size, rfl⟩
      · exact ⟨List.append_cancel_right same, rfl⟩
      · rw [List.concat_eq_append, listedSizes_concat] at same
        have whole : text = _ := (List.append_nil text).symm.trans same
        rw [whole] at unlisted
        exact absurd unlisted (not_endsUnlisted _ _)
  | append_singleton others size inductionHypothesis =>
      rcases List.eq_nil_or_concat sizes' with rfl | ⟨others', size', rfl⟩
      · rw [listedSizes_concat] at same
        have whole : text' = _ := (List.append_nil text').symm.trans same.symm
        rw [whole] at unlisted'
        exact absurd unlisted' (not_endsUnlisted _ _)
      · rw [List.concat_eq_append, listedSizes_concat, listedSizes_concat] at same
        obtain ⟨sameFront, sameSize⟩ := eq_of_mark_append (Text.notMem_digits rfl size)
          (Text.notMem_digits rfl size') same
        obtain ⟨sameText, sameOthers⟩ := inductionHypothesis (List.append_cancel_right sameFront)
        rw [List.concat_eq_append, sameOthers, Text.digits_injective sameSize]
        exact ⟨sameText, rfl⟩

/-- An image type is determined by its id if the id of the sampled type does not end like a list of
sizes and determines that type. -/
theorem eq_of_imageParts? {first second base base' : ShaderType} {word word' : String}
    {sizes sizes' : List Nat}
    (isImage : first.imageParts? = some (word, base, sizes))
    (isImage' : second.imageParts? = some (word', base', sizes'))
    (unlisted : EndsUnlisted base.canonicalId.toList)
    (unlisted' : EndsUnlisted base'.canonicalId.toList)
    (determined : base.canonicalId = base'.canonicalId → base = base')
    (same : first.canonicalId = second.canonicalId) :
    first = second := by
  have sameText := congrArg String.toList same
  rw [toList_canonicalId_image isImage, toList_canonicalId_image isImage'] at sameText
  obtain ⟨sameWord, sameRest⟩ := eq_of_append_mark
    ((leadsData_of_imageParts? isImage).notMem rfl)
    ((leadsData_of_imageParts? isImage').notMem rfl) sameText
  obtain ⟨sameBase, rfl⟩ := eq_of_listedSizes unlisted unlisted' (List.append_cancel_right sameRest)
  rw [← String.toList_inj.mp sameWord, ← determined (String.toList_inj.mp sameBase)] at isImage'
  have decoded := ofImageParts?_imageParts isImage'
  rw [ofImageParts?_imageParts isImage] at decoded
  exact Option.some.inj decoded

/-! ## Ids of data -/

/-- How the id of a type of data is written. -/
inductive WritesData : ShaderType → Prop
  | plain {type : ShaderType} {word : String} {sizes : List Nat}
      (parts : type.plainParts? = some (word, sizes)) :
      WritesData type
  | array {base : ShaderType} {size : Nat}
      (element : WritesData base) :
      WritesData (.array base size)
  | image {type base : ShaderType} {word : String} {sizes : List Nat}
      (parts : type.imageParts? = some (word, base, sizes))
      (sampled : WritesData base) :
      WritesData type

theorem writesData_of_isData : ∀ type : ShaderType, type.isData = true → WritesData type
  | .scalar _, _ | .vector _, _ | .matrix _, _ | .sampler, _ | .comparisonSampler, _ => .plain rfl
  | .array base _, isData => .array (writesData_of_isData base isData)
  | .buffer base _, isData => .image rfl (writesData_of_isData base isData)
  | .texture1D base _, isData => .image rfl (writesData_of_isData base isData)
  | .texture2D base _ _, isData => .image rfl (writesData_of_isData base isData)
  | .texture3D base _ _ _, isData => .image rfl (writesData_of_isData base isData)

theorem isAlphanum_of_plainParts? {type : ShaderType} {word : String} {sizes : List Nat}
    (isPlain : type.plainParts? = some (word, sizes)) :
    ∀ character ∈ type.canonicalId.toList, character.isAlphanum = true := by
  intro character member
  rw [toList_canonicalId_plain isPlain] at member
  rcases List.mem_append.mp member with inWord | inSizes
  · simp [Char.isAlphanum, (leadsData_of_plainParts? isPlain).letters character inWord]
  · exact isAlphanum_of_mem_crossedSizes inSizes

namespace WritesData

variable {type first second : ShaderType}

theorem endsUnlisted (writes : WritesData type) : EndsUnlisted type.canonicalId.toList := by
  cases writes with
  | plain parts =>
      refine endsUnlisted_of_notMem fun member => ?_
      exact absurd (isAlphanum_of_plainParts? parts _ member) (by decide)
  | array element =>
      rw [toList_canonicalId_array, ← List.cons_append, ← List.append_assoc]
      exact endsUnlisted_append rfl (by decide)
  | image parts sampled =>
      rw [toList_canonicalId_image parts, ← List.cons_append, ← List.append_assoc]
      exact endsUnlisted_append rfl (by decide)

theorem underscore_notMem (writes : WritesData type) : '_' ∉ type.canonicalId.toList := by
  induction writes with
  | plain parts =>
      exact fun member => absurd (isAlphanum_of_plainParts? parts _ member) (by decide)
  | @array base size element inductionHypothesis =>
      exact underscore_notMem_array size inductionHypothesis
  | @image type base word sizes parts sampled inductionHypothesis =>
      rw [toList_canonicalId_image parts]
      intro member
      rcases List.mem_append.mp member with inWord | behind
      · exact (leadsData_of_imageParts? parts).notMem rfl inWord
      · rcases List.mem_append.mp ((List.mem_cons.mp behind).resolve_left (by decide)) with
          inside | isLast
        · rcases List.mem_append.mp inside with inBase | inSizes
          · exact inductionHypothesis inBase
          · exact underscore_notMem_listedSizes inSizes
        · exact absurd (List.mem_singleton.mp isLast) (by decide)

/-- The id of a type of data does not start like that of a pointer. -/
theorem starts (writes : WritesData type) :
    ∃ first others, type.canonicalId.toList = first :: others ∧ first ≠ 'p' := by
  induction writes with
  | plain parts =>
      obtain ⟨first, others, word, different⟩ := (leadsData_of_plainParts? parts).start
      rw [toList_canonicalId_plain parts, word]
      exact ⟨first, _, rfl, different⟩
  | array element inductionHypothesis =>
      obtain ⟨first, others, base, different⟩ := inductionHypothesis
      rw [toList_canonicalId_array, base]
      exact ⟨first, _, rfl, different⟩
  | image parts sampled _ =>
      obtain ⟨first, others, word, different⟩ := (leadsData_of_imageParts? parts).start
      rw [toList_canonicalId_image parts, word]
      exact ⟨first, _, rfl, different⟩

end WritesData

theorem plain_ne_array {type base : ShaderType} {word : String} {sizes : List Nat} {size : Nat}
    (isPlain : type.plainParts? = some (word, sizes)) :
    type.canonicalId ≠ (array base size).canonicalId := by
  intro same
  have characters := isAlphanum_of_plainParts? isPlain
  rw [same, toList_canonicalId_array] at characters
  exact absurd (characters '[' (List.mem_append_right _ List.mem_cons_self)) (by decide)

theorem plain_ne_image {first second base : ShaderType} {word word' : String}
    {sizes sizes' : List Nat}
    (isPlain : first.plainParts? = some (word, sizes))
    (isImage : second.imageParts? = some (word', base, sizes')) :
    first.canonicalId ≠ second.canonicalId := by
  intro same
  have characters := isAlphanum_of_plainParts? isPlain
  rw [same, toList_canonicalId_image isImage] at characters
  exact absurd (characters '<' (List.mem_append_right _ List.mem_cons_self)) (by decide)

theorem array_ne_image {type element base : ShaderType} {word : String} {sizes : List Nat}
    {size : Nat}
    (isImage : type.imageParts? = some (word, base, sizes)) :
    (array element size).canonicalId ≠ type.canonicalId := by
  intro same
  have sameText := congrArg String.toList same
  rw [toList_canonicalId_array, toList_canonicalId_image isImage, ← List.cons_append,
    ← List.cons_append, ← List.append_assoc, ← List.append_assoc] at sameText
  exact absurd (List.singleton_inj.mp (List.append_inj_right' sameText rfl)) (by decide)

/-- A type of data is determined by its id. -/
theorem WritesData.eq {first second : ShaderType} (firstWrites : WritesData first)
    (secondWrites : WritesData second)
    (same : first.canonicalId = second.canonicalId) :
    first = second := by
  induction firstWrites generalizing second with
  | plain parts =>
      cases secondWrites with
      | plain parts' => exact eq_of_plainParts? parts parts' same
      | array element' => exact absurd same (plain_ne_array parts)
      | image parts' sampled' => exact absurd same (plain_ne_image parts parts')
  | array element inductionHypothesis =>
      cases secondWrites with
      | plain parts' => exact absurd same.symm (plain_ne_array parts')
      | array element' =>
          obtain ⟨sameBase, rfl⟩ := eq_of_canonicalId_array same
          rw [inductionHypothesis element' sameBase]
      | image parts' sampled' => exact absurd same (array_ne_image parts')
  | image parts sampled inductionHypothesis =>
      cases secondWrites with
      | plain parts' => exact absurd same.symm (plain_ne_image parts' parts)
      | array element' => exact absurd same.symm (array_ne_image parts)
      | image parts' sampled' =>
          exact eq_of_imageParts? parts parts' sampled.endsUnlisted sampled'.endsUnlisted
            (inductionHypothesis sampled') same

/-! ## Ids of passable types -/

/-- A passable type is one of data, or a pointer to a passable type. -/
inductive Passes : ShaderType → Prop
  | data {type : ShaderType}
      (writes : WritesData type) :
      Passes type
  | pointer {base : ShaderType}
      (target : Passes base) :
      Passes (.pointer base)

theorem passes_of_isPassable : ∀ type : ShaderType, type.isPassable = true → Passes type
  | .pointer base, passable => .pointer (passes_of_isPassable base passable)
  | .scalar _, passable | .vector _, passable | .matrix _, passable | .sampler, passable
  | .comparisonSampler, passable | .array .., passable | .buffer .., passable
  | .texture1D .., passable | .texture2D .., passable | .texture3D .., passable =>
      .data (writesData_of_isData _ passable)

theorem toList_canonicalId_pointer (base : ShaderType) :
    (pointer base).canonicalId.toList = 'p' :: 't' :: 'r' :: '_' :: base.canonicalId.toList := by
  change ("ptr_" ++ base.canonicalId).toList = _
  simp

theorem WritesData.append_ne_pointer {type base : ShaderType} (writes : WritesData type)
    (rest rest' : List Char) :
    type.canonicalId.toList ++ rest ≠ (pointer base).canonicalId.toList ++ rest' := by
  obtain ⟨first, others, written, different⟩ := writes.starts
  rw [written, toList_canonicalId_pointer]
  exact fun same => different (List.cons.inj same).1

/-- The ids of data are read off a text, and behind the mark of a pointer it goes on with the id of
the target. -/
theorem readsOff_passes : ReadsOff Passes := by
  have readsData : ReadsOff WritesData :=
    readsOff_of_underscoreless (fun _ writes => writes.underscore_notMem)
      (fun _ _ writes writes' same => writes.eq writes' same)
  intro first second rest rest' firstPasses secondPasses ends ends' same
  induction firstPasses generalizing second with
  | data writes =>
      cases secondPasses with
      | data writes' => exact readsData writes writes' ends ends' same
      | pointer target' => exact absurd same (writes.append_ne_pointer _ _)
  | pointer target inductionHypothesis =>
      cases secondPasses with
      | data writes' => exact absurd same.symm (writes'.append_ne_pointer _ _)
      | pointer target' =>
          rw [toList_canonicalId_pointer, toList_canonicalId_pointer] at same
          change ['p', 't', 'r', '_'] ++ _ = ['p', 't', 'r', '_'] ++ _ at same
          obtain ⟨rfl, sameRest⟩ := inductionHypothesis target' (List.append_cancel_left same)
          exact ⟨rfl, sameRest⟩

theorem Passes.ne_function {type returned : ShaderType} {parameters : List ShaderType}
    (passes : Passes type) :
    type.canonicalId ≠ (function returned parameters).canonicalId := by
  cases passes with
  | data writes => exact ne_function_of_underscoreless writes.underscore_notMem
  | pointer target =>
      intro same
      have sameText := congrArg String.toList same
      rw [toList_canonicalId_pointer, toList_canonicalId_function] at sameText
      exact absurd (List.cons.inj sameText).1 (by decide)

theorem signs_of_isUnnamed {type : ShaderType} (unnamed : type.isUnnamed = true) :
    Signs Passes type := by
  cases type with
  | function returned parameters =>
      obtain ⟨passable, others⟩ := Bool.and_eq_true_iff.mp unnamed
      exact .function (passes_of_isPassable returned passable) fun type member =>
        passes_of_isPassable type (List.all_eq_true.mp others type member)
  | _ => exact .part (passes_of_isPassable _ unnamed)

/-- Types that are made without declared names have the same id only if they are the same. -/
theorem unnamed_eq_iff {first second : ShaderType}
    (firstUnnamed : first.isUnnamed = true)
    (secondUnnamed : second.isUnnamed = true) :
    first.canonicalId = second.canonicalId ↔ first = second := by
  constructor
  · exact readsOff_passes.eq_of_canonicalId (fun _ _ _ passes => passes.ne_function)
      (signs_of_isUnnamed firstUnnamed) (signs_of_isUnnamed secondUnnamed)
  · exact congrArg canonicalId

/-- A function that takes a pointer and one that returns it. -/
theorem pointerParameter_ne_pointerResult :
    (function (texture2D (array (vector ⟨.float, 4⟩) 2) 8 16)
        [pointer (matrix ⟨.half, 10, 3⟩), .void]).isUnnamed = true ∧
      (function (pointer (matrix ⟨.half, 10, 3⟩))
        [texture1D (array (vector ⟨.float, 4⟩) 2) 8, .void]).isUnnamed = true ∧
      ((function (texture2D (array (vector ⟨.float, 4⟩) 2) 8 16)
          [pointer (matrix ⟨.half, 10, 3⟩), .void]).canonicalId =
        (function (pointer (matrix ⟨.half, 10, 3⟩))
          [texture1D (array (vector ⟨.float, 4⟩) 2) 8, .void]).canonicalId ↔
      function (texture2D (array (vector ⟨.float, 4⟩) 2) 8 16)
          [pointer (matrix ⟨.half, 10, 3⟩), .void] =
        function (pointer (matrix ⟨.half, 10, 3⟩))
          [texture1D (array (vector ⟨.float, 4⟩) 2) 8, .void]) :=
  ⟨by decide, by decide, unnamed_eq_iff (by decide) (by decide)⟩

end ShaderType

end ShaderLang
