import Conform.Text.CharSet

/-!
# Letter case

The lower-case and upper-case forms of a character, and the characters that count as the same letter
when case is ignored: those with the same lower-case form, and a few letters that share an
upper-case form.  A letter whose upper-case form is several characters long is given the first of
them.
-/

namespace Conform

/-- Letters whose lower-case forms run in parallel with them. -/
structure CaseRun where
  first : Nat
  last : Nat
  stride : Nat
  lower : Nat

/-- The numbers that a word of hexadecimal numbers joined by hyphens denotes. -/
def readHexWord (word : List Char) : List Nat :=
  (CharSet.words (word.map fun c => if c == '-' then ' ' else c)).map CharSet.readHex

/-- The letters beyond ASCII that have another lower-case form: first, last, stride, lower-case form
of the first. -/
def caseRuns : List CaseRun :=
  (CharSet.wordsOf [
    "c0-d6-1-e0 d8-de-1-f8 100-12e-2-101 130-130-1-69 132-136-2-133 139-147-2-13a 14a-176-2-14b",
    "178-178-1-ff 179-17d-2-17a 181-181-1-253 182-184-2-183 186-186-1-254 187-187-1-188",
    "189-18a-1-256 18b-18b-1-18c 18e-18e-1-1dd 18f-18f-1-259 190-190-1-25b 191-191-1-192",
    "193-193-1-260 194-194-1-263 196-196-1-269 197-197-1-268 198-198-1-199 19c-19c-1-26f",
    "19d-19d-1-272 19f-19f-1-275 1a0-1a4-2-1a1 1a6-1a6-1-280 1a7-1a7-1-1a8 1a9-1a9-1-283",
    "1ac-1ac-1-1ad 1ae-1ae-1-288 1af-1af-1-1b0 1b1-1b2-1-28a 1b3-1b5-2-1b4 1b7-1b7-1-292",
    "1b8-1b8-1-1b9 1bc-1bc-1-1bd 1c4-1c4-1-1c6 1c5-1c5-1-1c6 1c7-1c7-1-1c9 1c8-1c8-1-1c9",
    "1ca-1ca-1-1cc 1cb-1db-2-1cc 1de-1ee-2-1df 1f1-1f1-1-1f3 1f2-1f4-2-1f3 1f6-1f6-1-195",
    "1f7-1f7-1-1bf 1f8-21e-2-1f9 220-220-1-19e 222-232-2-223 23a-23a-1-2c65 23b-23b-1-23c",
    "23d-23d-1-19a 23e-23e-1-2c66 241-241-1-242 243-243-1-180 244-244-1-289 245-245-1-28c",
    "246-24e-2-247 370-372-2-371 376-376-1-377 37f-37f-1-3f3 386-386-1-3ac 388-38a-1-3ad",
    "38c-38c-1-3cc 38e-38f-1-3cd 391-3a1-1-3b1 3a3-3ab-1-3c3 3cf-3cf-1-3d7 3d8-3ee-2-3d9",
    "3f4-3f4-1-3b8 3f7-3f7-1-3f8 3f9-3f9-1-3f2 3fa-3fa-1-3fb 3fd-3ff-1-37b 400-40f-1-450",
    "410-42f-1-430 460-480-2-461 48a-4be-2-48b 4c0-4c0-1-4cf 4c1-4cd-2-4c2 4d0-52e-2-4d1",
    "531-556-1-561 10a0-10c5-1-2d00 10c7-10c7-1-2d27 10cd-10cd-1-2d2d 13a0-13ef-1-ab70",
    "13f0-13f5-1-13f8 1c90-1cba-1-10d0 1cbd-1cbf-1-10fd 1e00-1e94-2-1e01 1e9e-1e9e-1-df",
    "1ea0-1efe-2-1ea1 1f08-1f0f-1-1f00 1f18-1f1d-1-1f10 1f28-1f2f-1-1f20 1f38-1f3f-1-1f30",
    "1f48-1f4d-1-1f40 1f59-1f5f-2-1f51 1f68-1f6f-1-1f60 1f88-1f8f-1-1f80 1f98-1f9f-1-1f90",
    "1fa8-1faf-1-1fa0 1fb8-1fb9-1-1fb0 1fba-1fbb-1-1f70 1fbc-1fbc-1-1fb3 1fc8-1fcb-1-1f72",
    "1fcc-1fcc-1-1fc3 1fd8-1fd9-1-1fd0 1fda-1fdb-1-1f76 1fe8-1fe9-1-1fe0 1fea-1feb-1-1f7a",
    "1fec-1fec-1-1fe5 1ff8-1ff9-1-1f78 1ffa-1ffb-1-1f7c 1ffc-1ffc-1-1ff3 2126-2126-1-3c9",
    "212a-212a-1-6b 212b-212b-1-e5 2132-2132-1-214e 2160-216f-1-2170 2183-2183-1-2184",
    "24b6-24cf-1-24d0 2c00-2c2f-1-2c30 2c60-2c60-1-2c61 2c62-2c62-1-26b 2c63-2c63-1-1d7d",
    "2c64-2c64-1-27d 2c67-2c6b-2-2c68 2c6d-2c6d-1-251 2c6e-2c6e-1-271 2c6f-2c6f-1-250",
    "2c70-2c70-1-252 2c72-2c72-1-2c73 2c75-2c75-1-2c76 2c7e-2c7f-1-23f 2c80-2ce2-2-2c81",
    "2ceb-2ced-2-2cec 2cf2-2cf2-1-2cf3 a640-a66c-2-a641 a680-a69a-2-a681 a722-a72e-2-a723",
    "a732-a76e-2-a733 a779-a77b-2-a77a a77d-a77d-1-1d79 a77e-a786-2-a77f a78b-a78b-1-a78c",
    "a78d-a78d-1-265 a790-a792-2-a791 a796-a7a8-2-a797 a7aa-a7aa-1-266 a7ab-a7ab-1-25c",
    "a7ac-a7ac-1-261 a7ad-a7ad-1-26c a7ae-a7ae-1-26a a7b0-a7b0-1-29e a7b1-a7b1-1-287",
    "a7b2-a7b2-1-29d a7b3-a7b3-1-ab53 a7b4-a7c2-2-a7b5 a7c4-a7c4-1-a794 a7c5-a7c5-1-282",
    "a7c6-a7c6-1-1d8e a7c7-a7c9-2-a7c8 a7d0-a7d0-1-a7d1 a7d6-a7d8-2-a7d7 a7f5-a7f5-1-a7f6",
    "ff21-ff3a-1-ff41 10400-10427-1-10428 104b0-104d3-1-104d8 10570-1057a-1-10597",
    "1057c-1058a-1-105a3 1058c-10592-1-105b3 10594-10595-1-105bb 10c80-10cb2-1-10cc0",
    "118a0-118bf-1-118c0 16e40-16e5f-1-16e60 1e900-1e921-1-1e922"]).map
    fun word => match readHexWord word with
      | [first, last, stride, lower] => ⟨first, last, stride, lower⟩
      | _ => ⟨0, 0, 1, 0⟩

/-- The lower-case letters that share an upper-case form with the first one of their row. -/
def caseKin : List (List Nat) :=
  (CharSet.wordsOf [
    "69-131 73-17f b5-3bc 131-69 17f-73 345-3b9-1fbe 390-1fd3 3b0-1fe3 3b2-3d0 3b5-3f5 3b8-3d1",
    "3b9-345-1fbe 3ba-3f0 3bc-b5 3c0-3d6 3c1-3f1 3c2-3c3 3c3-3c2 3c6-3d5 3d0-3b2 3d1-3b8 3d5-3c6",
    "3d6-3c0 3f0-3ba 3f1-3c1 3f5-3b5 432-1c80 434-1c81 43e-1c82 441-1c83 442-1c84-1c85 44a-1c86",
    "463-1c87 1c80-432 1c81-434 1c82-43e 1c83-441 1c84-442-1c85 1c85-442-1c84 1c86-44a 1c87-463",
    "1c88-a64b 1e61-1e9b 1e9b-1e61 1fbe-345-3b9 1fd3-390 1fe3-3b0 a64b-1c88 fb05-fb06 fb06-fb05"]).map
    readHexWord

/-- The code point of the lower-case form. -/
def lowerCode (code : Nat) : Nat :=
  if code < 128 then if 65 ≤ code ∧ code ≤ 90 then code + 32 else code
  else
    match caseRuns.find? fun run =>
      run.first ≤ code ∧ code ≤ run.last ∧ (code - run.first) % run.stride = 0 with
    | some run => run.lower + (code - run.first)
    | none => code

/-- The code points whose lower-case form is the given one, itself apart. -/
def upperCodes (lower : Nat) : List Nat :=
  (if 97 ≤ lower ∧ lower ≤ 122 then [lower - 32] else []) ++
  caseRuns.filterMap fun run =>
    if run.lower ≤ lower ∧ lower - run.lower ≤ run.last - run.first ∧
        (lower - run.lower) % run.stride = 0 then
      some (run.first + (lower - run.lower))
    else none

/-- The letters whose upper-case form is not the first letter that they are the lower-case form
of. -/
def singularUppers : List (Nat × Nat) :=
  (CharSet.wordsOf [
    "b5-39c df-53 131-49 149-2bc 17f-53 1c5-1c4 1c8-1c7 1cb-1ca 1f0-4a 1f2-1f1 345-399 390-399",
    "3b0-3a5 3c2-3a3 3d0-392 3d1-398 3d5-3a6 3d6-3a0 3f0-39a 3f1-3a1 3f5-395 587-535 1c80-412",
    "1c81-414 1c82-41e 1c83-421 1c84-422 1c85-422 1c86-42a 1c87-462 1c88-a64a 1e96-48 1e97-54",
    "1e98-57 1e99-59 1e9a-41 1e9b-1e60 1f50-3a5 1f52-3a5 1f54-3a5 1f56-3a5 1f80-1f08 1f81-1f09",
    "1f82-1f0a 1f83-1f0b 1f84-1f0c 1f85-1f0d 1f86-1f0e 1f87-1f0f 1f88-1f08 1f89-1f09 1f8a-1f0a",
    "1f8b-1f0b 1f8c-1f0c 1f8d-1f0d 1f8e-1f0e 1f8f-1f0f 1f90-1f28 1f91-1f29 1f92-1f2a 1f93-1f2b",
    "1f94-1f2c 1f95-1f2d 1f96-1f2e 1f97-1f2f 1f98-1f28 1f99-1f29 1f9a-1f2a 1f9b-1f2b 1f9c-1f2c",
    "1f9d-1f2d 1f9e-1f2e 1f9f-1f2f 1fa0-1f68 1fa1-1f69 1fa2-1f6a 1fa3-1f6b 1fa4-1f6c 1fa5-1f6d",
    "1fa6-1f6e 1fa7-1f6f 1fa8-1f68 1fa9-1f69 1faa-1f6a 1fab-1f6b 1fac-1f6c 1fad-1f6d 1fae-1f6e",
    "1faf-1f6f 1fb2-1fba 1fb3-391 1fb4-386 1fb6-391 1fb7-391 1fbc-391 1fbe-399 1fc2-1fca 1fc3-397",
    "1fc4-389 1fc6-397 1fc7-397 1fcc-397 1fd2-399 1fd3-399 1fd6-399 1fd7-399 1fe2-3a5 1fe3-3a5",
    "1fe4-3a1 1fe6-3a5 1fe7-3a5 1ff2-1ffa 1ff3-3a9 1ff4-38f 1ff6-3a9 1ff7-3a9 1ffc-3a9 fb00-46",
    "fb01-46 fb02-46 fb03-46 fb04-46 fb05-53 fb06-53 fb13-544 fb14-544 fb15-544 fb16-54e fb17-544"]).map
    CharSet.readRange

/-- The code point of the upper-case form. -/
def upperCode (code : Nat) : Nat :=
  match singularUppers.find? fun entry => entry.1 == code with
  | some (_, upper) => upper
  | none => (upperCodes code).headD code

/-- Whether the numbers `first`, `first + stride`, …, `last` have one between two bounds. -/
def strideMeets (first last stride lo hi : Nat) : Bool :=
  let next := if lo ≤ first then first else first + (lo - first + stride - 1) / stride * stride
  next ≤ last && next ≤ hi

/-- Whether one of the code points between two bounds has another lower-case or upper-case form. -/
def hasCaseWithin (lo hi : Nat) : Bool :=
  strideMeets 65 90 1 lo hi || strideMeets 97 122 1 lo hi ||
    (caseRuns.any fun run =>
      strideMeets run.first run.last run.stride lo hi ||
        strideMeets run.lower (run.lower + (run.last - run.first)) run.stride lo hi) ||
    singularUppers.any fun entry => lo ≤ entry.1 && entry.1 ≤ hi

/-- Whether one of the letters of ASCII is between two bounds. -/
def hasAsciiCaseWithin (lo hi : Nat) : Bool :=
  strideMeets 65 90 1 lo hi || strideMeets 97 122 1 lo hi

/-- The code points that count as the same letter when case is ignored. -/
def caseVariants (code : Nat) : List Nat :=
  let lower := lowerCode code
  let kin := lower :: ((caseKin.find? fun row => row.head? == some lower).getD []).drop 1
  kin.flatMap fun letter => letter :: upperCodes letter

/-- The code points that count as the same letter when only the case of ASCII is ignored. -/
def asciiCaseVariants (code : Nat) : List Nat :=
  if 65 ≤ code ∧ code ≤ 90 then [code, code + 32]
  else if 97 ≤ code ∧ code ≤ 122 then [code, code - 32]
  else [code]

end Conform
