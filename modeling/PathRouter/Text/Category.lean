import PathRouter.Text.Blank
import PathRouter.Text.Decimal

/-!
# General categories and words

Every character has one general category of the Unicode standard, written with two letters (`Lu`,
`Nd`, …), and letters in the wide sense have the property `Alphabetic`. Both tables are texts of run
lengths over the code points from zero on. `isWord` says which characters words are made of.
-/

namespace PathRouter.Text

/-- The code points up to `last`, from the run before on, with one code. -/
structure CodeRun where
  last : Nat
  code : String
deriving DecidableEq, Repr

/-- Reads runs written as a length, left out if it is one, and a code of `width` letters. `next` is
the first code point of the run being read. -/
def codeRuns (width next : Nat) (length code : List Char) : List Char → List CodeRun
  | [] => []
  | c :: cs =>
    if isDigit c then codeRuns width next (length ++ [c]) code cs
    else if code.length + 1 < width then codeRuns width next length (code ++ [c]) cs
    else
      let n := next + if length.isEmpty then 1 else ofDigits 10 length
      ⟨n - 1, String.ofList (code ++ [c])⟩ :: codeRuns width n [] [] cs

/-- The code of a character, from runs over all code points. -/
def codeOf (runs : List CodeRun) (c : Char) : String :=
  ((runs.find? fun r => c.toNat ≤ r.last).map (·.code)).getD ""

/-- The general categories of all code points, as runs. -/
def categoryText : String := String.join [
  "32CcZs3PoSc3PoPsPePoSmPoPd2Po10Nd2Po3Sm2Po26LuPsPoPeSkPcSk26LlPsSmPeSm33CcZsPo4ScSoPoSkSoLoPiS",
  "mCfSoSkSoSm2NoSkLl2PoSkNoLoPf3NoPo23LuSm7Lu24LlSm8LlLuLlLuLlLuLlLuLlLuLlLuLlLuLlLuLlLuLlLuLlLu",
  "LlLuLlLuLlLuLlLuLlLuLlLuLlLuLlLuLlLuLlLuLlLuLlLuLlLuLlLuLlLuLlLuLlLu2LlLuLlLuLlLuLlLuLlLuLlLuL",
  "lLuLlLu2LlLuLlLuLlLuLlLuLlLuLlLuLlLuLlLuLlLuLlLuLlLuLlLuLlLuLlLuLlLuLlLuLlLuLlLuLlLuLlLuLlLuLl",
  "LuLlLuLl2LuLlLuLlLu3Ll2LuLlLuLl2LuLl3Lu2Ll4LuLl2LuLl3Lu3Ll2LuLl2LuLlLuLlLuLl2LuLlLu2LlLuLl2LuL",
  "l3LuLlLuLl2Lu2LlLoLu3Ll4LoLuLtLlLuLtLlLuLtLlLuLlLuLlLuLlLuLlLuLlLuLlLuLlLu2LlLuLlLuLlLuLlLuLlL",
  "uLlLuLlLuLlLuLlLu2LlLuLtLlLuLl3LuLlLuLlLuLlLuLlLuLlLuLlLuLlLuLlLuLlLuLlLuLlLuLlLuLlLuLlLuLlLuL",
  "lLuLlLuLlLuLlLuLlLuLlLuLlLuLlLuLlLuLlLuLlLuLlLuLlLuLlLu7Ll2LuLl2Lu2LlLuLl4LuLlLuLlLuLlLuLlLu69",
  "Ll2Lo26Ll18Lm4Sk12Lm14Sk5Lm7SkLmSkLm17Sk112MnLuLlLuLlLmSkLuLl2CnLm3LlPoLu4Cn2SkLuPo3LuCnLuCn2L",
  "uLl17LuCn9Lu35LlLu2Ll3Lu3LlLuLlLuLlLuLlLuLlLuLlLuLlLuLlLuLlLuLlLuLlLuLlLu5LlLuLlSmLuLl2Lu2Ll51",
  "Lu48LlLuLlLuLlLuLlLuLlLuLlLuLlLuLlLuLlLuLlLuLlLuLlLuLlLuLlLuLlLuLlLuLlLuLlSo5Mn2MeLuLlLuLlLuLl",
  "LuLlLuLlLuLlLuLlLuLlLuLlLuLlLuLlLuLlLuLlLuLlLuLlLuLlLuLlLuLlLuLlLuLlLuLlLuLlLuLlLuLlLuLlLuLlLu",
  "Ll2LuLlLuLlLuLlLuLlLuLlLuLlLu2LlLuLlLuLlLuLlLuLlLuLlLuLlLuLlLuLlLuLlLuLlLuLlLuLlLuLlLuLlLuLlLu",
  "LlLuLlLuLlLuLlLuLlLuLlLuLlLuLlLuLlLuLlLuLlLuLlLuLlLuLlLuLlLuLlLuLlLuLlLuLlLuLlLuLlLuLlLuLlLuLl",
  "LuLlLuLlLuLlLuLlLuLlLuLlLuLlLuLlLuLlCn38Lu2CnLm6Po41LlPoPd2Cn2SoScCn45MnPdMnPo2MnPo2MnPoMn8Cn2",
  "7Lo4Cn4Lo2Po11Cn6Cf3Sm2PoSc2Po2So11MnPoCf3Po32LoLm10Lo21Mn10Nd4Po2LoMn99LoPoLo7MnCfSo6Mn2Lm2Mn",
  "So4Mn2Lo10Nd3Lo2SoLo14PoCnCfLoMn30Lo27Mn2Cn89Lo11MnLo14Cn10Nd33Lo9Mn2LmSo3PoLm2CnMn2Sc22Lo4MnL",
  "m9MnLm3MnLm5Mn2Cn15PoCn25Lo3Mn2CnPoCn11Lo5Cn24LoSk6LoCn2Cf5Cn9Mn41LoLm24MnCf32MnMc54LoMnMcMnLo",
  "3Mc8Mn4McMn2McLo7Mn10Lo2Mn2Po10NdPoLm15LoMn2McCn8Lo2Cn2Lo2Cn22LoCn7LoCnLo3Cn4Lo2CnMnLo3Mc4Mn2C",
  "n2Mc2Cn2McMnLo8CnMc4Cn2LoCn3Lo2Mn2Cn10Nd2Lo2Sc6NoSoScLoPoMn2Cn2MnMcCn6Lo4Cn2Lo2Cn22LoCn7LoCn2L",
  "oCn2LoCn2Lo2CnMnCn3Mc2Mn4Cn2Mn2Cn3Mn3CnMn7Cn4LoCnLo7Cn10Nd2Mn3LoMnPo10Cn2MnMcCn9LoCn3LoCn22LoC",
  "n7LoCn2LoCn5Lo2CnMnLo3Mc5MnCn2MnMcCn2McMn2CnLo15Cn2Lo2Mn2Cn10NdPoSc7CnLo6MnCnMn2McCn8Lo2Cn2Lo2",
  "Cn22LoCn7LoCn2LoCn5Lo2CnMnLoMcMnMc4Mn2Cn2Mc2Cn2McMn7Cn2MnMc4Cn2LoCn3Lo2Mn2Cn10NdSoLo6No10CnMnL",
  "oCn6Lo3Cn3LoCn4Lo3Cn2LoCnLoCn2Lo3Cn2Lo3Cn3Lo3Cn12Lo4Cn2McMn2Mc3Cn3McCn3McMn2CnLo6CnMc14Cn10Nd3",
  "No6SoScSo5CnMn3McMn8LoCn3LoCn23LoCn16Lo2CnMnLo3Mn4McCn3MnCn4Mn7Cn2MnCn3Lo2CnLo2Cn2Lo2Mn2Cn10Nd",
  "7CnPo7NoSoLoMn2McPo8LoCn3LoCn23LoCn10LoCn5Lo2CnMnLoMcMn5McCnMn2McCn2Mc2Mn7Cn2Mc6Cn2LoCn2Lo2Mn2",
  "Cn10NdCn2LoMc12Cn2Mn2Mc9LoCn3LoCn41Lo2MnLo3Mc4MnCn3McCn3McMnLoSo4Cn3LoMc7No3Lo2Mn2Cn10Nd9NoSo6",
  "LoCnMn2McCn18Lo3Cn24LoCn9LoCnLo2Cn7Lo3CnMn4Cn3Mc3MnCnMnCn8Mc6Cn10Nd2Cn2McPo12Cn48LoMn2Lo7Mn4Cn",
  "Sc6LoLm8MnPo10Nd2Po37Cn2LoCnLoCn5LoCn24LoCnLoCn10LoMn2Lo9MnLo2Cn5LoCnLmCn7MnCn10Nd2Cn4Lo32CnLo",
  "3So15PoSoPo3So2Mn6So10Nd10NoSoMnSoMnSoMnPsPePsPe2Mc8LoCn36Lo4Cn14MnMc5MnPo2Mn5Lo11MnCn36MnCn8S",
  "oMn6SoCn2So5Po4So2Po37Cn43Lo2Mc4MnMc6MnMc2Mn2Mc2MnLo10Nd6Po6Lo2Mc2Mn4Lo3MnLo3Mc2Lo7Mc3Lo4Mn13L",
  "oMn2Mc2Mn6McMnLoMc10Nd3McMn2So38LuCnLu5CnLu2Cn43LlPoLm3Ll329LoCn4Lo2Cn7LoCnLoCn4Lo2Cn41LoCn4Lo",
  "2Cn33LoCn4Lo2Cn7LoCnLoCn4Lo2Cn15LoCn57LoCn4Lo2Cn67Lo2Cn3Mn9Po20No3Cn16Lo10So6Cn86Lu2Cn6Ll2CnPd",
  "620LoSoPo17LoZs26LoPsPe3Cn75Lo3Po3Nl8Lo7Cn18Lo3MnMc9Cn19Lo2MnMc2Po9Cn18Lo2Mn12Cn13LoCn3LoCn2Mn",
  "12Cn52Lo2MnMc7Mn8McMn2Mc11Mn3PoLm3PoScLoMn2Cn10Nd6Cn10No6Cn6PoPd4Po3MnCfMn10Nd6Cn35LoLm53Lo7Cn",
  "5Lo2Mn34LoMnLo5Cn70Lo10Cn31LoCn3Mn4Mc2Mn3Mc4Cn2McMn6Mc3Mn4CnSo3Cn2Po10Nd30Lo2Cn5Lo11Cn44Lo4Cn2",
  "6Lo6Cn10NdNo3Cn34So23Lo2Mn2McMn2Cn2Po53LoMcMnMc7MnCnMnMcMn2Mc8Mn6Mc10Mn2CnMn10Nd6Cn10Nd6Cn7PoL",
  "m6Po2Cn14MnMe16Mn49Cn4MnMc47LoMnMc5MnMcMn5McMn2Mc8LoCn2Po10Nd7Po10So9Mn9So3Po2MnMc30LoMc4Mn2Mc",
  "2MnMc3Mn2Lo10Nd44LoMnMc2Mn3McMnMc3Mn2Mc8Cn4Po36Lo8Mc8Mn2Mc2Mn3Cn5Po10Nd3Cn3Lo10Nd30Lo6Lm2Po9Ll",
  "LuLl5Cn43Lu2Cn3Lu8Po8Cn3MnPo13MnMc7Mn4LoMn6LoMn2LoMc2MnLo5Cn44Ll63Lm13LlLm34Ll37Lm64MnLuLlLuLl",
  "LuLlLuLlLuLlLuLlLuLlLuLlLuLlLuLlLuLlLuLlLuLlLuLlLuLlLuLlLuLlLuLlLuLlLuLlLuLlLuLlLuLlLuLlLuLlLu",
  "LlLuLlLuLlLuLlLuLlLuLlLuLlLuLlLuLlLuLlLuLlLuLlLuLlLuLlLuLlLuLlLuLlLuLlLuLlLuLlLuLlLuLlLuLlLuLl",
  "LuLlLuLlLuLlLuLlLuLlLuLlLuLlLuLlLuLlLuLlLuLlLuLlLuLlLuLlLuLlLuLlLuLlLuLlLuLlLuLlLuLlLuLlLuLlLu",
  "LlLuLlLu9LlLuLlLuLlLuLlLuLlLuLlLuLlLuLlLuLlLuLlLuLlLuLlLuLlLuLlLuLlLuLlLuLlLuLlLuLlLuLlLuLlLuL",
  "lLuLlLuLlLuLlLuLlLuLlLuLlLuLlLuLlLuLlLuLlLuLlLuLlLuLlLuLlLuLlLuLlLuLlLuLlLuLlLuLlLuLlLuLlLuLlL",
  "uLlLuLlLuLlLuLlLu9Ll8Lu6Ll2Cn6Lu2Cn8Ll8Lu8Ll8Lu6Ll2Cn6Lu2Cn8LlCnLuCnLuCnLuCnLu8Ll8Lu14Ll2Cn8Ll",
  "8Lt8Ll8Lt8Ll8Lt5LlCn2Ll4LuLtSkLl3Sk3LlCn2Ll4LuLt3Sk4Ll2Cn2Ll4LuCn3Sk8Ll5Lu3Sk2Cn3LlCn2Ll4LuLt2",
  "SkCn11Zs5Cf6Pd2PoPiPfPs2PiPfPsPi8PoZlZp5CfZs9PoPiPf4Po2Pc3PoSmPsPe11PoSmPoPc10PoZs5CfCn10CfNoL",
  "m2Cn6No3SmPsPeLm10No3SmPsPeCn13Lm3Cn33Sc15Cn13Mn4MeMn3Me12Mn15Cn2SoLu4SoLu2SoLl3Lu2Ll3LuLlSoLu",
  "2SoSm5Lu6SoLuSoLuSoLuSo4LuSoLl4LuLl4LoLl2So2Ll2Lu5SmLu4LlSoSm2SoLlSo16No35NlLuLl4NlNo2So4Cn5Sm",
  "5So2Sm4SoSm2SoSm2SoSm7SoSm31So2Sm2SoSmSoSm31So268Sm8SoPsPePsPe20So2Sm7SoPsPe81SoSm30So25Sm40So",
  "6Sm72So22Cn11So21Cn60No78So22No183SoSm9SoSm54So8Sm111SoSm248SoPsPePsPePsPePsPePsPePsPePsPe30No",
  "44So5SmPsPe31SmPsPePsPePsPePsPePsPe16Sm256So131SmPsPePsPePsPePsPePsPePsPePsPePsPePsPePsPePsPe6",
  "3SmPsPePsPe32SmPsPe258Sm48So21Sm2So6Sm39So2Cn32SoCn105So48Lu48LlLuLl3Lu2LlLuLlLuLlLuLl4LuLlLu2",
  "LlLu6Ll2Lm3LuLlLuLlLuLlLuLlLuLlLuLlLuLlLuLlLuLlLuLlLuLlLuLlLuLlLuLlLuLlLuLlLuLlLuLlLuLlLuLlLuL",
  "lLuLlLuLlLuLlLuLlLuLlLuLlLuLlLuLlLuLlLuLlLuLlLuLlLuLlLuLlLuLlLuLlLuLlLuLlLuLlLuLlLuLlLuLlLuLlL",
  "uLlLuLlLuLlLuLlLuLlLu2Ll6SoLuLlLuLl3MnLuLl5Cn4PoNo2Po38LlCnLl5CnLl2Cn56Lo7CnLmPo14CnMn23Lo9Cn7",
  "LoCn7LoCn7LoCn7LoCn7LoCn7LoCn7LoCn7LoCn32Mn2PoPiPfPiPf3PoPiPfPoPiPf9PoPd2PoPdPoPiPf2PoPiPfPsPe",
  "PsPePsPePsPe5PoLm10Po2Pd4PoPdPoPs13Po2So3PoPsPePsPePsPePsPePd34Cn26SoCn89So12Cn214So26Cn16SoZs",
  "3PoSoLmLoNlPsPePsPePsPePsPePsPe2SoPsPePsPePsPePsPePdPs2PeSo9Nl4Mn2McPd5Lm2So3NlLmLoPo2SoCn86Lo",
  "2Cn2Mn2Sk2LmLoPd90LoPo3LmLo5Cn43LoCn94LoCn2So4No10So32Lo38So9CnSo16Lo31SoCn10No30So8NoSo15No32",
  "So10No39So15No320So6592Lo64So21013LoLm1143Lo3Cn55So9Cn40Lo6Lm2Po268LoLm3Po16Lo10Nd2Lo20CnLuLlL",
  "uLlLuLlLuLlLuLlLuLlLuLlLuLlLuLlLuLlLuLlLuLlLuLlLuLlLuLlLuLlLuLlLuLlLuLlLuLlLuLlLuLlLuLlLoMn3Me",
  "Po10MnPoLmLuLlLuLlLuLlLuLlLuLlLuLlLuLlLuLlLuLlLuLlLuLlLuLlLuLlLuLl2Lm2Mn70Lo10Nl2Mn6Po8Cn23Sk9",
  "Lm2SkLuLlLuLlLuLlLuLlLuLlLuLlLu3LlLuLlLuLlLuLlLuLlLuLlLuLlLuLlLuLlLuLlLuLlLuLlLuLlLuLlLuLlLuLl",
  "LuLlLuLlLuLlLuLlLuLlLuLlLuLlLuLlLuLlLuLlLuLlLuLlLuLlLuLlLuLlLuLlLm8LlLuLlLuLl2LuLlLuLlLuLlLuLl",
  "LuLlLm2SkLuLlLuLlLoLuLlLu3LlLuLlLuLlLuLlLuLlLuLlLuLlLuLlLuLlLuLlLuLl5LuLl5LuLlLuLlLuLlLuLlLuLl",
  "LuLlLuLlLuLl4LuLlLuLl2LuLl2CnLuLlCnLlCnLlLuLlLuLlLuLlLu21Cn3LmLuLlLo2LmLl7LoMn3LoMn4LoMn23Lo2M",
  "c2MnMc4SoMn3Cn6No2SoScSo6Cn52Lo4Po8Cn2Mc50Lo16Mc2Mn8Cn2Po10Nd6Cn18Mn6Lo3PoLoPo2LoMn10Nd28Lo8Mn",
  "2Po23Lo11Mn2Mc11CnPo29Lo3Cn3MnMc47LoMn2Mc4Mn2Mc2Mn3Mc13PoCnLm10Nd4Cn2Po5LoMnLm9Lo10Nd5LoCn41Lo",
  "6Mn2Mc2Mn2Mc2Mn9Cn3LoMn8LoMnMc2Cn10Nd2Cn4Po16LoLm6Lo3SoLoMcMnMc50LoMnLo3Mn2Lo2Mn5Lo2MnLoMnLo24",
  "Cn2LoLm2Po11LoMc2Mn2Mc2PoLo2LmMcMn10Cn6Lo2Cn6Lo2Cn6Lo9Cn7LoCn7LoCn43LlSk4Lm9LlLm2Sk4Cn80Ll35Lo",
  "2McMn2McMn2McPoMcMn2Cn10Nd6Cn11172Lo12Cn23Lo4Cn49Lo4Cn2048Cs6400Co366Lo2Cn106Lo38Cn7Ll12Cn5Ll5",
  "CnLoMn10LoSm13LoCn5LoCnLoCn2LoCn2LoCn108Lo17Sk16Cn363LoPePs16So64Lo2Cn54Lo7CnSo32Cn12LoSc3So16",
  "Mn7PoPsPePo6Cn16MnPo2Pd2PcPsPePsPePsPePsPePsPePsPePsPePsPe2PoPsPe4Po3Pc3PoCn4PoPdPsPePsPePsPe3",
  "PoSmPd3SmCnPoSc2Po4Cn5LoCn135Lo2CnCfCn3PoSc3PoPsPePoSmPoPd2Po10Nd2Po3Sm2Po26LuPsPoPeSkPcSk26Ll",
  "PsSmPeSmPsPePoPsPe2Po10LoLm45Lo2Lm31Lo3Cn6Lo2Cn6Lo2Cn6Lo2Cn3Lo3Cn2ScSmSkSo2ScCnSo4Sm2So10Cn3Cf",
  "2So2Cn12LoCn26LoCn19LoCn2LoCn15Lo2Cn14Lo34Cn123Lo5Cn3Po4Cn45No3Cn9So53Nl4No17So2No3SoCn13So3Cn",
  "So47Cn45SoMn130Cn29Lo3Cn49Lo15CnMn27No4Cn32Lo4No9Cn20LoNl8LoNl5Cn38Lo5Mn5Cn30LoCnPo36Lo4Cn8LoP",
  "o5Nl42Cn40Lu40Ll78Lo2Cn10Nd6Cn36Lu4Cn36Ll4Cn40Lo8Cn52Lo11CnPo11LuCn15LuCn7LuCn2LuCn11LlCn15LlC",
  "n7LlCn2Ll3Cn52Lo12Cn311Lo9Cn22Lo10Cn8Lo24Cn6LmCn42LmCn9Lm69Cn6Lo2CnLoCn44LoCn2Lo3CnLo2Cn23LoCn",
  "Po8No23Lo2So7No31Lo8Cn9No48Cn19LoCn2Lo5Cn5No22Lo6No3CnPo26Lo5CnPo64Cn56Lo4Cn2No2Lo16No2Cn46NoL",
  "o3MnCn2Mn5Cn4Mn4LoCn3LoCn29Lo2Cn3Mn4CnMn9No7Cn9Po7Cn29Lo2NoPo29Lo3No32Cn8LoSo28Lo2Mn4Cn5No7Po9",
  "Cn54Lo3Cn7Po22Lo2Cn8No19Lo5Cn8No18Lo7Cn4Po12Cn7No80Cn73Lo55Cn51Lu13Cn51Ll7Cn6No36Lo4Mn8Cn10Nd6",
  "Cn10Nd4LoLmLo22Lu3Cn5MnPdLm22Ll8Cn2Sm208Cn31NoCn42LoCn2MnPd2Cn2Lo16Cn3Lo55Cn4Mn29Lo10NoLo8Cn22",
  "Lo11Mn4No5Po22Cn18Lo4Mn4Po38Cn21Lo7No20Cn23Lo9CnMcMnMc53Lo15Mn7Po4Cn20No10NdMn2Lo2MnLo9Cn3MnMc",
  "45Lo3Mc4Mn2Mc2Mn2PoCf4PoMn10CnCf2Cn25Lo7Cn10Nd6Cn3Mn36Lo5MnMc8MnCn10Nd4PoLo2McLo8Cn35LoMn2PoLo",
  "9Cn2MnMc48Lo3Mc9Mn2Mc4Lo4Po4MnPoMcMn10NdLoPoLo3PoCn20No11Cn18LoCn25Lo3Mc3Mn2McMnMc2Mn6PoMn2LoM",
  "n62Cn7LoCnLoCn4LoCn15LoCn10LoPo6Cn47LoMn3Mc8Mn5Cn10Nd6Cn2Mn2McCn8Lo2Cn2Lo2Cn22LoCn7LoCn2LoCn5L",
  "oCn2MnLo2McMn4Mc2Cn2Mc2Cn3Mc2CnLo6CnMc5Cn5Lo2Mc2Cn7Mn3Cn5Mn11Cn10LoCnLo2CnLoCn38LoCnLo3Mc6MnCn",
  "Mc2CnMcCn4McCn2McMnMcMnLoMnLo2PoCn2Po8Cn2Mn29Cn53Lo3Mc8Mn2Mc3MnMcMn4Lo5Po10Nd2PoCnPoMn3Lo30Cn4",
  "8Lo3Mc6MnMcMn4Mc2MnMc2Mn2LoPoLo8Cn10Nd166Cn47Lo3Mc4Mn2Cn4Mc2MnMc2Mn23Po4Lo2Mn34Cn48Lo3Mc8Mn2Mc",
  "MnMc2Mn3PoLo11Cn10Nd6Cn13Po19Cn43LoMnMcMn2Mc6MnMcMnLoPo6Cn10Nd6Cn20Nd28Cn27Lo2CnMnMcMn2Mc4MnMc",
  "5Mn4Cn10Nd2No3PoSo7Lo185Cn44Lo3Mc9MnMc2MnPo100Cn32Lu32Ll10Nd9No12Cn8Lo2CnLo2Cn8LoCn2LoCn24Lo6M",
  "cCn2Mc2Cn2MnMcMnLoMcLoMcMn3Po9Cn10Nd70Cn8Lo2Cn39Lo3Mc4Mn2Cn2Mn4McMnLoPoLoMc27CnLo10Mn40Lo6MnMc",
  "Lo4Mn8PoMn8CnLo6Mn2Mc3Mn46Lo13MnMc2Mn3PoLo5Po13Cn73Lo7Cn10Po182Cn33LoPo14Cn10Nd6Cn9LoCn37LoMc7",
  "MnCn6MnMcMnLo5Po10Cn10Nd19No3Cn2Po30Lo2Cn22MnCnMc7MnMc2MnMc2Mn73Cn7LoCn2LoCn38Lo6Mn3CnMnCn2MnC",
  "n7MnLoMn8Cn10Nd6Cn6LoCn2LoCn32Lo5McCn2MnCn2McMnMcMnLo7Cn10Nd310Cn19Lo2Mn2Mc2Po7Cn2MnLoMc13LoCn",
  "34Lo2Mc5Mn3Cn2McMnMcMn13Po10NdMn85CnLo15Cn21No8So4Sc17So13CnPo922Lo102Cn111NlCn5Po11Cn196Lo263",
  "6Cn97Lo2Po13Cn1072Lo16CfMn6Lo15Mn10Cn3995Lo5Cn583Lo6841Cn30Lo12Mn3Mc3Mn10Nd1734Cn569Lo7Cn31LoC",
  "n10Nd4Cn2Po79LoCn10Nd6Cn30Lo2Cn5MnPo10Cn48Lo7Mn5Po4So4LmPoSo10Cn10NdCn7NoCn21Lo5Cn19Lo432Cn3Lm",
  "40Lo2Lm3Po10Nd198Cn32Lu32Ll23No4Po101Cn75Lo4CnMnLo55Mc7Cn4Mn13Lm64Cn2LmPoLmMn11Cn2Mc14Cn6136Lo",
  "8Cn1238Lo41Cn10Lo8935Cn4LmCn7LmCn2LmCn291Lo15CnLo29Cn3Lo2CnLo14Cn4Lo8Cn396Lo2308Cn107Lo5Cn13Lo",
  "3Cn9Lo7Cn10Lo2CnSo2MnPo4Cf3932Cn240So10Nd6Cn436So76Cn46Mn2Cn23Mn9Cn116So60Cn246So10Cn39So2Cn60",
  "So2Mc3Mn3So6Mc8Cf8Mn2So7Mn30So4Mn61So21Cn66So3MnSo122Cn20No12Cn20No12Cn87So9Cn25No135Cn26Lu26L",
  "l26Lu7LlCn18Ll26Lu26LlLuCn2Lu2CnLu2Cn2Lu2Cn4LuCn8Lu4LlCnLlCn7LlCn11Ll26Lu26Ll2LuCn4Lu2Cn8LuCn7",
  "LuCn26Ll2LuCn4LuCn5LuCnLu3Cn7LuCn26Ll26Lu26Ll26Lu26Ll26Lu26Ll26Lu26Ll26Lu26Ll26Lu28Ll2Cn25LuSm",
  "25LlSm6Ll25LuSm25LlSm6Ll25LuSm25LlSm6Ll25LuSm25LlSm6Ll25LuSm25LlSm6LlLuLl2Cn50Nd512So55Mn4So50",
  "Mn8SoMn14SoMn2So5Po15Cn5MnCn15Mn1104Cn10LlLo20Ll6Cn6Ll213Cn7MnCn17Mn2Cn7MnCn2MnCn5Mn5Cn62Lm33C",
  "nMn112Cn45Lo3Cn7Mn7Lm2Cn10Nd4CnLoSo320Cn30LoMn17Cn44Lo4Mn10Nd5CnSc464Cn27LoLm4Mn10Nd214Cn30Lo2",
  "MnLo10Nd4CnPo480Cn7LoCn4LoCn2LoCn15LoCn197Lo2Cn9No7Mn41Cn34Lu34Ll7MnLm4Cn10Nd4Cn2Po785Cn59NoSo",
  "3NoSc4No76Cn45NoSo15No194Cn4LoCn27LoCn2LoCnLo2CnLoCn10LoCn4LoCnLoCnLo6CnLo4CnLoCnLoCnLoCn3LoCn",
  "2LoCnLo2CnLoCnLoCnLoCnLoCnLoCn2LoCnLo2Cn4LoCn7LoCn4LoCn4LoCnLoCn10LoCn17Lo5Cn3LoCn5LoCn17Lo52C",
  "n2Sm270Cn44So4Cn100So12Cn15So2Cn15SoCn15SoCn37So10Cn13No161So56Cn29So13Cn44So4Cn9So7Cn2So14Cn6",
  "So154Cn251So5Sk728So4Cn17So3Cn13So3Cn119So4Cn95So6Cn12So4CnSo15Cn12So4Cn56So8Cn10So6Cn40So8Cn3",
  "0So2Cn12So4Cn2So62Cn340So12Cn14So2Cn13So3Cn10So5Cn56So7Cn15So2Cn11So6Cn9So7Cn147SoCn92So10Nd10",
  "30Cn42720Lo32Cn4154Lo6Cn222Lo2Cn5762Lo14Cn7473Lo15Cn622Lo2466Cn542Lo1506Cn4939Lo5Cn4192Lo71176",
  "1CnCf30Cn96Cf128Cn240Mn65040Cn65534Co2Cn65534Co2Cn"]

/-- The runs of the general categories. -/
def categoryRuns : List CodeRun := codeRuns 2 0 [] [] categoryText.toList

/-- The two letters of a character's general category. -/
def category (c : Char) : String := codeOf categoryRuns c

/-- The last code points of the runs, from lengths set apart by dots. -/
def runEnds (next : Nat) (length : List Char) : List Char → List Nat
  | [] => if length.isEmpty then [] else [next + ofDigits 10 length - 1]
  | c :: cs =>
    if isDigit c then runEnds next (length ++ [c]) cs
    else
      let n := next + ofDigits 10 length
      (n - 1) :: runEnds n [] cs

/-- Whether a character lies in a run with a property, where runs without and with it take turns. -/
def inTurns (ends : List Nat) (c : Char) : Bool :=
  (ends.takeWhile (· < c.toNat)).length % 2 == 1

/-- The lengths of the runs without and with the property `Alphabetic`, by turns. -/
def alphabeticText : String := String.join [
  "65.26.6.26.47.1.10.1.4.1.5.23.1.31.1.458.4.12.14.5.7.1.1.1.86.1.29.18.1.2.2.4.1.1.6.1.1.3.1.1.",
  "1.20.1.83.1.139.8.166.1.38.2.1.6.41.39.14.1.1.1.2.1.2.1.1.8.27.4.4.29.11.5.56.1.7.14.102.1.8.4",
  ".8.4.3.10.3.2.1.16.48.13.101.24.33.9.2.4.1.5.24.2.19.19.25.7.11.5.24.1.6.8.1.8.42.10.12.3.7.6.",
  "76.1.16.1.3.4.15.13.19.1.8.2.2.2.22.1.7.1.1.3.4.3.8.2.2.2.2.1.1.8.1.4.2.1.5.12.2.10.1.4.3.1.6.",
  "4.2.2.22.1.7.1.2.1.2.1.2.4.5.4.2.2.2.4.1.7.4.1.1.17.6.11.3.1.9.1.3.1.22.1.7.1.2.1.5.3.9.1.3.1.",
  "2.3.1.15.4.21.4.4.3.1.8.2.2.2.22.1.7.1.2.1.5.3.8.2.2.2.2.9.2.4.2.1.5.13.1.16.2.1.6.3.3.1.4.3.2",
  ".1.1.1.2.3.2.3.3.3.12.4.5.3.3.1.3.3.1.6.1.40.13.1.3.1.23.1.16.3.8.1.3.1.3.8.2.1.3.2.1.2.4.28.4",
  ".1.8.1.3.1.23.1.10.1.5.3.8.1.3.1.3.8.2.6.2.1.4.13.3.12.13.1.3.1.41.2.8.1.3.1.3.1.1.5.4.7.5.22.",
  "6.1.3.1.18.3.24.1.9.1.1.2.7.8.6.1.1.1.8.18.2.13.58.5.7.6.1.51.2.1.1.1.5.1.24.1.1.1.19.1.3.2.5.",
  "1.1.6.1.14.4.32.1.63.8.1.36.4.19.4.16.1.36.67.55.1.1.2.5.16.64.10.4.2.38.1.1.5.1.2.43.1.333.1.",
  "4.2.7.1.1.1.4.2.41.1.4.2.33.1.4.2.7.1.1.1.4.2.15.1.57.1.4.2.67.37.16.16.86.2.6.3.620.2.17.1.26",
  ".5.75.3.11.7.20.11.21.12.20.12.13.1.3.1.2.12.52.2.19.14.1.4.1.67.89.7.43.5.70.10.31.1.12.4.9.2",
  "3.30.2.5.11.44.4.26.54.28.4.63.2.20.50.1.23.2.11.3.49.52.1.15.1.8.51.42.2.4.10.44.1.11.14.55.2",
  "2.3.10.36.2.11.5.43.2.3.41.4.1.6.1.2.3.1.5.192.19.34.11.278.2.6.2.38.2.6.2.8.1.1.1.1.1.1.1.31.",
  "2.53.1.7.1.1.3.3.1.7.3.4.2.6.4.13.5.3.1.7.116.1.13.1.16.13.101.1.4.1.2.10.1.1.3.5.6.1.1.1.1.1.",
  "1.4.1.11.2.4.5.5.4.1.17.41.813.52.1814.229.6.4.3.2.12.38.1.1.5.1.2.56.7.1.16.23.9.7.1.7.1.7.1.",
  "7.1.7.1.7.1.7.1.7.1.32.47.1.469.3.25.9.7.5.2.5.4.86.6.3.1.90.1.4.5.43.1.94.17.32.48.16.512.659",
  "2.64.22157.67.46.2.269.3.16.10.2.20.47.5.8.3.113.39.9.2.103.2.67.2.2.1.1.1.8.21.20.1.33.24.52.",
  "12.68.1.1.44.6.3.1.1.3.10.33.5.35.13.29.3.51.1.12.15.1.16.16.10.5.1.55.9.14.18.23.3.69.1.1.1.1",
  ".24.3.2.16.2.4.11.6.2.6.2.6.9.7.1.7.1.43.1.14.6.123.21.11172.12.23.4.49.8452.366.2.106.38.7.12",
  ".5.5.12.1.13.1.5.1.1.1.2.1.2.1.108.33.363.18.64.2.54.40.12.116.5.1.135.36.26.6.26.11.89.3.6.2.",
  "6.2.6.2.3.35.12.1.26.1.19.1.2.1.15.2.14.34.123.69.53.267.29.3.49.47.32.13.30.5.43.5.30.2.36.4.",
  "8.1.5.42.158.18.36.4.36.4.40.8.52.12.11.1.15.1.7.1.2.1.11.1.15.1.7.1.2.3.52.12.311.9.22.10.8.2",
  "4.6.1.42.1.9.69.6.2.1.1.44.1.2.3.1.2.23.10.23.9.31.65.19.1.2.10.22.10.26.70.56.6.2.64.4.1.2.5.",
  "8.1.3.1.29.42.29.3.29.35.8.1.28.27.54.10.22.10.19.13.18.110.73.55.51.13.51.13.40.34.28.3.1.5.2",
  "3.250.42.1.2.3.2.16.3.55.1.3.29.10.1.8.22.42.18.46.21.27.23.9.70.43.5.10.57.9.1.13.25.23.51.17",
  ".4.8.35.3.1.9.64.1.4.9.2.10.1.1.1.35.18.1.34.2.1.6.4.62.7.1.1.1.4.1.15.1.10.7.57.23.4.1.8.2.2.",
  "2.22.1.7.1.2.1.5.3.8.2.2.2.2.3.1.6.1.5.7.28.10.1.1.2.1.1.38.1.10.1.1.2.1.1.4.1.2.3.1.1.1.44.66",
  ".1.3.1.4.20.3.30.66.2.2.1.1.184.54.2.7.25.6.34.63.1.1.3.1.59.54.2.1.71.27.2.14.21.7.185.57.103",
  ".64.31.8.2.1.2.8.1.2.1.30.1.2.2.2.2.4.93.8.2.46.2.6.1.1.1.2.27.51.2.10.17.72.5.1.18.73.199.33.",
  "31.9.1.45.1.7.1.1.49.30.2.22.1.14.73.7.1.2.1.44.3.1.1.2.1.3.1.1.2.2.24.6.1.2.1.37.1.2.1.4.1.1.",
  "327.23.9.17.1.41.3.3.111.1.79.922.102.111.17.196.2636.97.15.1072.17.6.25.3995.5.583.6841.47.17",
  "45.569.7.31.17.79.17.30.18.48.16.4.31.21.5.19.432.45.211.64.128.75.4.57.7.17.64.2.1.1.12.2.14.",
  "6136.8.1238.41.10.8935.4.1.7.1.2.1.291.15.1.29.3.2.1.14.4.8.396.2308.107.5.13.3.9.7.10.4.1.598",
  "5.85.1.71.1.2.2.1.2.2.2.4.1.12.1.1.1.7.1.65.1.4.2.8.1.7.1.28.1.4.1.5.1.1.3.7.1.340.2.25.1.25.1",
  ".31.1.25.1.31.1.25.1.31.1.25.1.31.1.25.1.8.1844.31.6.6.213.7.1.17.2.7.1.2.1.5.5.62.33.1.112.45",
  ".10.7.16.1.321.30.18.44.484.28.228.30.2.1.495.7.1.4.1.2.1.15.1.197.59.68.3.1.3.1.1204.4.1.27.1",
  ".2.1.1.2.1.1.10.1.4.1.1.1.1.6.1.4.1.1.1.1.1.1.3.1.2.1.1.2.1.1.1.1.1.1.1.1.1.1.2.1.1.2.4.1.7.1.",
  "4.1.4.1.1.1.10.1.17.5.3.1.5.1.17.628.26.6.26.6.26.3702.42720.32.4154.6.222.2.5762.14.7473.15.6",
  "22.2466.542.1506.4939.5.4192.908368"]

/-- The last code points of the runs without and with the property `Alphabetic`, by turns. -/
def alphabeticEnds : List Nat := runEnds 0 [] alphabeticText.toList

/-- Whether a character has the property `Alphabetic`. -/
def isAlphabetic (c : Char) : Bool := inTurns alphabeticEnds c

/-- Whether a character is a decimal digit of any script. -/
def isDecimalDigit (c : Char) : Bool := category c == "Nd"

/-- Whether a character has a numeric category. -/
def isNumeric (c : Char) : Bool := ["Nd", "Nl", "No"].contains (category c)

/-- Whether a character is part of a word: a letter in the wide sense, a mark, a decimal digit, a
connector such as the underscore, or one of the two joiners. -/
def isWord (c : Char) : Bool :=
  isAlphabetic c || ["Mn", "Mc", "Me", "Nd", "Pc"].contains (category c) ||
    c == '\u200c' || c == '\u200d'

end PathRouter.Text
