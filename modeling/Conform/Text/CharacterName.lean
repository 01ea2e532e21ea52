import Conform.Text.CharSet
import Conform.Text.Names.Alphabets
import Conform.Text.Names.EastAsian
import Conform.Text.Names.Historic
import Conform.Text.Names.Pictographs
import Conform.Text.Names.Symbols

/-!
# Names of characters

The character that a name of the character standard denotes.  Ideographs and syllables of Korean
have names that follow a rule.  All others stand in tables, one entry after another in the order of
the code points: a small letter says how many leading characters the name shares with the one before
it, from `a` for none, and the rest of the name follows, with an underscore for a blank and signs
for frequent parts.  Where code points are left out, `z` and a hexadecimal number give the next one.
-/

namespace Conform

/-- The names that characters have besides the one in the tables. -/
def alternativeNames : String := "
z0aNULz0dLaSOHz1bT+T_OF_HEAD:GjTEXTz2cXa~^OF_TEXTz3bTXbN^OF_TR=SMISSI@z4bOTbNQz5dUIRYaACKz6dNOW|DGE
bL,Tz7aBELbACKSPACEz8bSaCH+ACT,_TABULATI@z9aHORIZ@T&_TABULATI@z9bTz9aTABa~^OF_L:EzAbOLzAaLFzAb:;FEED
zAaNEW_L:EzAbLaL:;TABULATI@zBaV,TIC&_TABULATI@zBbTaFFzCbORM_FEEDaC+RIAG;RETURNzDbRaLOCK:G-SHIFT_@E
zEaSHIFT_OUTzEbOaLOCK:G-SHIFT_Z,OzFaSHIFT_:zFbIaDATA_L:K_ESCAPEz10b|bC1z11bEVIC;C@TROL_@EbC2
z12bEVIC;C@TROL_TWObC3z13bEVIC;C@TROL_THREEbC4z14bEVIC;C@TROL_FOURaNAKz15bEGATIV;ACKNOW|DGEaSYN
z16dCHR@OUS_ID|a~^OF_TR=SMISSI@_BLOCKz17bTBaC=z18dCELa~^OF_MEDIUMz19bOMaSUBz1AdSTITUTEaESCz1BdAPE
aFIL;SEP+ATORz1CbSz1Ca:FORMATI@>EP+ATOR_FOURaGROUP>EP+ATORz1DbSz1Da:FORMATI@>EP+ATOR_THREExWO
z1EaRECORD>EP+ATORz1EbSa:FORMATI@>EP+ATOR_@Ez1FaUNIT>EP+ATORz1FbSaSPz7FaDELz7FdETEaPAD
z80dD:G_CH+ACT,aHIGH_OCTET_PRESETz81bOPaBPHz82bREAK_P,MITTE^H,EaNBHz83bO_BREAK_H,Ea:Dz84dEXaNEL
z85cXT_L:EaSSAz86bT+T_OF>E|CTE^+EAa~^OF>E|CTE^+EAz87bSAaCH+ACT,_TABULATI@>ET
z88aHORIZ@T&_TABULATI@>ETz88bTSaCH+ACT,_TABULATI@$JUSTIFICATI@z89aHORIZ@T&_TABULATI@$JUSTIFICATI@
z89bTJaL:;TABULATI@>ETz8AaV,TIC&_TABULATI@>ETz8AbTSaP+TI&_L:;DOWNz8BnFORW+Dz8BbLDb+TI&_L:;BACKW+D
z8CnUPz8CbLUaREV,S;:DEXz8DiL:;FEEDz8DbIaS:GL;SHIFT_TWOz8Eg-SHIFT-2z8EbS2b:GL;SHIFT_THREEz8Fg-SHIFT-3
z8FbS3aDCSz90bEVIC;C@TROL>TR:GaPRIVAT;US;@Ez91l-1z91bU1bRIVAT;US;TWOz92l-2z92bU2aSET_TR=SMIT>TATE
z93bTSaC=CEL_CH+ACT,z94bCHaMESSAG;WAIT:Gz95bWaSPAz96bT+T_OF_GU+DE^+EAz96jPROTECTE^+EAa~^OF_GU+DE^+EA
z97hPROTECTE^+EAz97bPAaSOSz98bT+T_OF>TR:GbGCz99b:GL;GRAPHIC_CH+ACT,_:TRODUC,bCI
z9Ab:GL;CH+ACT,_:TRODUC,aC@TROL>EQU~C;:TRODUC,z9BbSIaSTz9CcR:G_T,M:ATORaOP,AT:G>YSTEM_COMM=Dz9DbSC
aPMz9EbRIVACY_MESSAGEaAPCz9FcPLICATI@_PROGRAM_COMM=DaNBSPzADaSHYz1A2aLAT:_%!GHAgSM&!GHAz34FaCGJ
z61Ca&Mz709aSYRIAC>UBL:E+_COL@>KEWE^|FTzCDEaK=NADA_|TT,_LLLAzE9DaLAO_|TT,_FO_F@zE9FpAYzEA3lROzEA5lLO
zFD0aTIBET=_M+K_BKA->HOG_GI_MGO_RGY=z11ECaH=GUL_J@GSE@G_YESIEUNG-KIYEOKyG-SS=GKIYEOKrSS=GYESIEUNG
rYESIEUNG-KHIEUKHz180BaFVS1d2d3aMVSaFVS4z200BaZWSPcNJcJaLRMaRLMz202AaLREaR|aPDFaLROaRLOaNNBSP
z205FaMMSPaWJz2066aLRIaRLIaFSIaPDIz2118aWEI,STRASS_ELLIPTIC_FUNCTI@z2448aMICR_@_US>YMBOLfDASH>YMBOL
z2B7Aa|FTW+DS_TRI=G|-HEADE^+ROW$DOUBL;V,TIC&>TROKEz2B7CaR.W+DS_TRI=G|-HEADE^+ROW$DOUBL;V,TIC&>TROKE
zA015aYI>YLLABL;IT,ATI@_M+KzAA6EaMY=M+_|TT,_KHAMTI_LLAzFE00aVS1c2c3c4c5c6c7c8c9c10d1d2d3d4d5d6
zFE18aPRES~TATI@<_FOR_V,TIC&_R._WHIT;|NTICUL+_BRACKETzFEFFaBOMzFEFFbYT;ORD,_M+KzFEFFaZWNBSP
z122D4aCUNEIFORM>IGN_NU11_T~UuOV,_NU11_BUR_OV,_BURz16E56aMEDEFAIDR:_%!Hy,_NGz16E76mSM&!Hy_NG
z1B001aH~TAIG=A_|TT,_E-1z1D0C5aBYZ=T:;MUSIC&>YMBOL_FTHORA>KLIR@_CHROMA_VASISzE0100aVS17d8d9c20d1d2d3
d4d5d6d7d8d9c30d1d2d3d4d5d6d7d8d9c40d1d2d3d4d5d6d7d8d9c50d1d2d3d4d5d6d7d8d9c60d1d2d3d4d5d6d7d8d9c70
d1d2d3d4d5d6d7d8d9c80d1d2d3d4d5d6d7d8d9c90d1d2d3d4d5d6d7d8d9c100e1e2e3e4e5e6e7e8e9d10e1e2e3e4e5e6e7
e8e9d20e1e2e3e4e5e6e7e8e9d30e1e2e3e4e5e6e7e8e9d40e1e2e3e4e5e6e7e8e9d50e1e2e3e4e5e6e7e8e9d60e1e2e3e4
e5e6e7e8e9d70e1e2e3e4e5e6e7e8e9d80e1e2e3e4e5e6e7e8e9d90e1e2e3e4e5e6e7e8e9c200e1e2e3e4e5e6e7e8e9d10e1
e2e3e4e5e6e7e8e9d20e1e2e3e4e5e6e7e8e9d30e1e2e3e4e5e6e7e8e9d40e1e2e3e4e5e6e7e8e9d50e1e2e3e4e5e6"

/-- The place of the first of the longest parts that a text begins with, and the rest of the
text. -/
def splitLongest (parts : List String) (text : List Char) : Option (Nat × List Char) :=
  let fitting := parts.zipIdx.filter fun (part, _) => part.toList.isPrefixOf text
  let best := fitting.foldl (fun best entry =>
    match best with
    | some (part, _) => if entry.1.length ≤ String.length part then best else some entry
    | none => some entry) none
  best.map fun (part, index) => (index, text.drop part.length)

namespace CharacterName

/-- The part of a name that a sign of the tables stands for. -/
def expand (sign : Char) : String :=
  match sign with
  | '_' => " "
  | '!' => "L LETTER "
  | '$' => " WITH "
  | '%' => "CAPITA"
  | '&' => "AL"
  | '+' => "AR"
  | ',' => "ER"
  | '.' => "IGHT"
  | ':' => "IN"
  | ';' => "E "
  | '<' => " FORM"
  | '=' => "AN"
  | '>' => " S"
  | '@' => "ON"
  | '^' => "D "
  | '|' => "LE"
  | '~' => "EN"
  | other => String.singleton other

/-- A walk over a table in search of a name. -/
structure Walk where
  /-- The code point of the current entry. -/
  code : Nat := 0
  /-- Whether the next entry gives its code point. -/
  jumps : Bool := false
  /-- How many characters of the current name have gone by. -/
  length : Nat := 0
  /-- How many leading characters of the current name are those of the wanted name. -/
  agreeing : Nat := 0
  /-- The code point of the wanted name, once it has gone by. -/
  found : Option Nat := none

namespace Walk

/-- The walk after the end of an entry. -/
def close (walk : Walk) (wanted : Array Char) : Walk :=
  if walk.found.isNone && walk.length == wanted.size && walk.agreeing == wanted.size then
    { walk with found := some walk.code }
  else walk

/-- The walk after one more character of the current name. -/
def extend (wanted : Array Char) (walk : Walk) (c : Char) : Walk :=
  { walk with
    length := walk.length + 1
    agreeing :=
      if walk.agreeing == walk.length && wanted[walk.length]? == some c then walk.length + 1
      else walk.agreeing }

/-- The walk after one more character of the table. -/
def step (wanted : Array Char) (walk : Walk) (c : Char) : Walk :=
  if c == '\n' then walk
  else if c == 'z' then { walk.close wanted with code := 0, jumps := true }
  else if 97 ≤ c.toNat && c.toNat ≤ 122 then
    let shared := c.toNat - 97
    let walk :=
      if walk.jumps then { walk with jumps := false }
      else { walk.close wanted with code := walk.code + 1 }
    { walk with length := shared, agreeing := min walk.agreeing shared }
  else if walk.jumps then { walk with code := 16 * walk.code + (CharSet.hexDigit? c).getD 0 }
  else (expand c).foldl (extend wanted) walk

end Walk

/-- The code point that a table gives for a name in capitals. -/
def search (table : String) (name : String) : Option Nat :=
  let wanted := name.toList.toArray
  if wanted.isEmpty then none
  else ((table.foldl (Walk.step wanted) {}).close wanted).found

/-- The unified ideographs, whose names hold their code points. -/
def unifiedIdeographs : CharSet := .ofLines [
  "3400-4dbf 4e00-9fff 20000-2a6df 2a700-2b738 2b740-2b81d 2b820-2cea1 2ceb0-2ebe0 30000-3134a"]

/-- Further characters whose names end in their code points. -/
def codedNames : List (String × CharSet) := [
  ("CJK COMPATIBILITY IDEOGRAPH-", .ofLines ["f900-fa6d fa70-fad9 2f800-2fa1d"]),
  ("KHITAN SMALL SCRIPT CHARACTER-", .ofLines ["18b00-18cd5"]),
  ("NUSHU CHARACTER-", .ofLines ["1b170-1b2fb"])]

/-- The code point of four or five hexadecimal digits in capitals. -/
def readCode (digits : List Char) : Option Nat :=
  let plain := digits.all fun c => (CharSet.hexDigit? c).isSome && !(97 ≤ c.toNat)
  if plain && (digits.length == 4 || digits.length == 5) then some (CharSet.readHex digits)
  else none

/-- The sounds at the beginning, in the middle and at the end of a syllable of Korean. -/
def syllableSounds : List (List String) := [
  ["G", "GG", "N", "D", "DD", "R", "M", "B", "BB", "S", "SS", "", "J", "JJ", "C", "K", "T", "P",
    "H"],
  ["A", "AE", "YA", "YAE", "EO", "E", "YEO", "YE", "O", "WA", "WAE", "OE", "YO", "U", "WEO", "WE",
    "WI", "YU", "EU", "YI", "I"],
  ["", "G", "GG", "GS", "N", "NJ", "NH", "D", "L", "LG", "LM", "LB", "LS", "LT", "LP", "LH", "M",
    "B", "BS", "S", "SS", "NG", "J", "C", "K", "T", "P", "H"]]

/-- The number of a syllable whose sounds are given, each with as many others as there are. -/
def readSyllable : List (List String) → Nat → List Char → Option Nat
  | [], index, rest => if rest.isEmpty then some index else none
  | sounds :: more, index, text => do
    let (sound, rest) ← splitLongest sounds text
    readSyllable more (sounds.length * index + sound) rest

/-- What follows a part that a text begins with. -/
def after? (part : String) (text : List Char) : Option (List Char) :=
  if part.toList.isPrefixOf text then some (text.drop part.length) else none

/-- The code point that a name ending in it gives. -/
def searchCoded (name : List Char) : Option Nat :=
  codedNames.findSome? fun (leading, characters) => do
    let digits ← after? leading name
    let code ← readCode digits
    if characters.contains (Char.ofNat code) && digits.head? != some '0' then some code else none

/-- A letter of ASCII as a capital. -/
def capital (c : Char) : Char :=
  if 97 ≤ c.toNat ∧ c.toNat ≤ 122 then Char.ofNat (c.toNat - 32) else c

/-- The code point of the character with a name.  Small letters count as capitals, except in the
names of unified ideographs and Korean syllables. -/
def codePoint? (name : String) : Option Nat :=
  match after? "HANGUL SYLLABLE " name.toList, after? "CJK UNIFIED IDEOGRAPH-" name.toList with
  | some sounds, _ => (readSyllable syllableSounds 0 sounds).map (0xac00 + ·)
  | none, some digits => do
    let code ← readCode digits
    if unifiedIdeographs.contains (Char.ofNat code) then some code else none
  | none, none =>
    let name := name.toList.map capital
    (searchCoded name).or
      ([alphabetNames, symbolNames, eastAsianNames, historicNames, pictographNames,
        alternativeNames].findSome? fun table => search table (String.ofList name))

end CharacterName

end Conform
