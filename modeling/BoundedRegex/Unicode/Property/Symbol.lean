import BoundedRegex.Unicode.Table

/-!
# Properties of punctuation, symbols and controls

Punctuation, emoji, and the code points that steer how text is laid out.
-/
namespace BoundedRegex.Unicode

/-- The code points with the property `Bidi Control`. -/
def bidiControlPoints : PointSet :=
  PointSet.ofText
  "61C 61D 200E 2010 202A 202F 2066 206A"

/-- The code points with the property `Bidi Mirrored`. -/
def bidiMirroredPoints : PointSet :=
  PointSet.ofText
  "28 2A 3C 3D 3E 3F 5B 5C 5D 5E 7B 7C 7D 7E AB AC BB BC F3A F3E 169B 169D 2039 203B 2045 2047 207D
  207F 208D 208F 2140 2141 2201 2205 2208 220E 2211 2212 2215 2217 221A 221E 221F 2223 2224 2225
  2226 2227 222B 2234 2239 223A 223B 224D 2252 2256 225F 2261 2262 2263 2264 226C 226E 228D 228F
  2293 2298 2299 22A2 22A4 22A6 22B9 22BE 22C0 22C9 22CE 22D0 22D2 22D6 22EE 22F0 2300 2308 230C
  2320 2322 2329 232B 2768 2776 27C0 27C1 27C3 27C7 27C8 27CA 27CB 27CE 27D3 27D7 27DC 27DF 27E2
  27F0 2983 2999 299B 29A1 29A2 29B0 29B8 29B9 29C0 29C6 29C9 29CA 29CE 29D3 29D4 29D6 29D8 29DD
  29E1 29E2 29E3 29E6 29E8 29EA 29F4 29FA 29FC 29FE 2A0A 2A1D 2A1E 2A22 2A24 2A25 2A26 2A27 2A29
  2A2A 2A2B 2A2F 2A34 2A36 2A3C 2A3F 2A57 2A59 2A64 2A66 2A6A 2A6E 2A6F 2A71 2A73 2A75 2A79 2AA4
  2AA6 2AAE 2AAF 2AD7 2ADC 2ADD 2ADE 2ADF 2AE2 2AE7 2AEC 2AEF 2AF3 2AF4 2AF7 2AFC 2AFD 2AFE 2BFE
  2BFF 2E02 2E06 2E09 2E0B 2E0C 2E0E 2E1C 2E1E 2E20 2E2A 2E55 2E5D 3008 3012 3014 301C FE59 FE5F
  FE64 FE66 FF08 FF0A FF1C FF1D FF1E FF1F FF3B FF3C FF3D FF3E FF5B FF5C FF5D FF5E FF5F FF61 FF62
  FF64 1D6DB 1D6DC 1D715 1D716 1D74F 1D750 1D789 1D78A 1D7C3 1D7C4"

/-- The code points with the property `Dash`. -/
def dashPoints : PointSet :=
  PointSet.ofText
  "2D 2E 58A 58B 5BE 5BF 1400 1401 1806 1807 2010 2016 2053 2054 207B 207C 208B 208C 2212 2213 2E17
  2E18 2E1A 2E1B 2E3A 2E3C 2E40 2E41 2E5D 2E5E 301C 301D 3030 3031 30A0 30A1 FE31 FE33 FE58 FE59
  FE63 FE64 FF0D FF0E 10EAD 10EAE"

/-- The code points with the property `Default Ignorable Code Point`. -/
def defaultIgnorableCodePointPoints : PointSet :=
  PointSet.ofText
  "AD AE 34F 350 61C 61D 115F 1161 17B4 17B6 180B 1810 200B 2010 202A 202F 2060 2070 3164 3165 FE00
  FE10 FEFF FF00 FFA0 FFA1 FFF0 FFF9 1BCA0 1BCA4 1D173 1D17B E0000 E1000"

/-- The code points with the property `Deprecated`. -/
def deprecatedPoints : PointSet :=
  PointSet.ofText
  "149 14A 673 674 F77 F78 F79 F7A 17A3 17A5 206A 2070 2329 232B E0001 E0002"

/-- The code points with the property `Emoji`. -/
def emojiPoints : PointSet :=
  PointSet.ofText
  "23 24 2A 2B 30 3A A9 AA AE AF 203C 203D 2049 204A 2122 2123 2139 213A 2194 219A 21A9 21AB 231A
  231C 2328 2329 23CF 23D0 23E9 23F4 23F8 23FB 24C2 24C3 25AA 25AC 25B6 25B7 25C0 25C1 25FB 25FF
  2600 2605 260E 260F 2611 2612 2614 2616 2618 2619 261D 261E 2620 2621 2622 2624 2626 2627 262A
  262B 262E 2630 2638 263B 2640 2641 2642 2643 2648 2654 265F 2661 2663 2664 2665 2667 2668 2669
  267B 267C 267E 2680 2692 2698 2699 269A 269B 269D 26A0 26A2 26A7 26A8 26AA 26AC 26B0 26B2 26BD
  26BF 26C4 26C6 26C8 26C9 26CE 26D0 26D1 26D2 26D3 26D5 26E9 26EB 26F0 26F6 26F7 26FB 26FD 26FE
  2702 2703 2705 2706 2708 270E 270F 2710 2712 2713 2714 2715 2716 2717 271D 271E 2721 2722 2728
  2729 2733 2735 2744 2745 2747 2748 274C 274D 274E 274F 2753 2756 2757 2758 2763 2765 2795 2798
  27A1 27A2 27B0 27B1 27BF 27C0 2934 2936 2B05 2B08 2B1B 2B1D 2B50 2B51 2B55 2B56 3030 3031 303D
  303E 3297 3298 3299 329A 1F004 1F005 1F0CF 1F0D0 1F170 1F172 1F17E 1F180 1F18E 1F18F 1F191 1F19B
  1F1E6 1F200 1F201 1F203 1F21A 1F21B 1F22F 1F230 1F232 1F23B 1F250 1F252 1F300 1F322 1F324 1F394
  1F396 1F398 1F399 1F39C 1F39E 1F3F1 1F3F3 1F3F6 1F3F7 1F4FE 1F4FF 1F53E 1F549 1F54F 1F550 1F568
  1F56F 1F571 1F573 1F57B 1F587 1F588 1F58A 1F58E 1F590 1F591 1F595 1F597 1F5A4 1F5A6 1F5A8 1F5A9
  1F5B1 1F5B3 1F5BC 1F5BD 1F5C2 1F5C5 1F5D1 1F5D4 1F5DC 1F5DF 1F5E1 1F5E2 1F5E3 1F5E4 1F5E8 1F5E9
  1F5EF 1F5F0 1F5F3 1F5F4 1F5FA 1F650 1F680 1F6C6 1F6CB 1F6D3 1F6D5 1F6D8 1F6DC 1F6E6 1F6E9 1F6EA
  1F6EB 1F6ED 1F6F0 1F6F1 1F6F3 1F6FD 1F7E0 1F7EC 1F7F0 1F7F1 1F90C 1F93B 1F93C 1F946 1F947 1FA00
  1FA70 1FA7D 1FA80 1FA89 1FA90 1FABE 1FABF 1FAC6 1FACE 1FADC 1FAE0 1FAE9 1FAF0 1FAF9"

/-- The code points with the property `Emoji Component`. -/
def emojiComponentPoints : PointSet :=
  PointSet.ofText
  "23 24 2A 2B 30 3A 200D 200E 20E3 20E4 FE0F FE10 1F1E6 1F200 1F3FB 1F400 1F9B0 1F9B4 E0020 E0080"

/-- The code points with the property `Emoji Modifier`. -/
def emojiModifierPoints : PointSet :=
  PointSet.ofText
  "1F3FB 1F400"

/-- The code points with the property `Emoji Modifier Base`. -/
def emojiModifierBasePoints : PointSet :=
  PointSet.ofText
  "261D 261E 26F9 26FA 270A 270E 1F385 1F386 1F3C2 1F3C5 1F3C7 1F3C8 1F3CA 1F3CD 1F442 1F444 1F446
  1F451 1F466 1F479 1F47C 1F47D 1F481 1F484 1F485 1F488 1F48F 1F490 1F491 1F492 1F4AA 1F4AB 1F574
  1F576 1F57A 1F57B 1F590 1F591 1F595 1F597 1F645 1F648 1F64B 1F650 1F6A3 1F6A4 1F6B4 1F6B7 1F6C0
  1F6C1 1F6CC 1F6CD 1F90C 1F90D 1F90F 1F910 1F918 1F920 1F926 1F927 1F930 1F93A 1F93C 1F93F 1F977
  1F978 1F9B5 1F9B7 1F9B8 1F9BA 1F9BB 1F9BC 1F9CD 1F9D0 1F9D1 1F9DE 1FAC3 1FAC6 1FAF0 1FAF9"

/-- The code points with the property `Emoji Presentation`. -/
def emojiPresentationPoints : PointSet :=
  PointSet.ofText
  "231A 231C 23E9 23ED 23F0 23F1 23F3 23F4 25FD 25FF 2614 2616 2648 2654 267F 2680 2693 2694 26A1
  26A2 26AA 26AC 26BD 26BF 26C4 26C6 26CE 26CF 26D4 26D5 26EA 26EB 26F2 26F4 26F5 26F6 26FA 26FB
  26FD 26FE 2705 2706 270A 270C 2728 2729 274C 274D 274E 274F 2753 2756 2757 2758 2795 2798 27B0
  27B1 27BF 27C0 2B1B 2B1D 2B50 2B51 2B55 2B56 1F004 1F005 1F0CF 1F0D0 1F18E 1F18F 1F191 1F19B
  1F1E6 1F200 1F201 1F202 1F21A 1F21B 1F22F 1F230 1F232 1F237 1F238 1F23B 1F250 1F252 1F300 1F321
  1F32D 1F336 1F337 1F37D 1F37E 1F394 1F3A0 1F3CB 1F3CF 1F3D4 1F3E0 1F3F1 1F3F4 1F3F5 1F3F8 1F43F
  1F440 1F441 1F442 1F4FD 1F4FF 1F53E 1F54B 1F54F 1F550 1F568 1F57A 1F57B 1F595 1F597 1F5A4 1F5A5
  1F5FB 1F650 1F680 1F6C6 1F6CC 1F6CD 1F6D0 1F6D3 1F6D5 1F6D8 1F6DC 1F6E0 1F6EB 1F6ED 1F6F4 1F6FD
  1F7E0 1F7EC 1F7F0 1F7F1 1F90C 1F93B 1F93C 1F946 1F947 1FA00 1FA70 1FA7D 1FA80 1FA89 1FA90 1FABE
  1FABF 1FAC6 1FACE 1FADC 1FAE0 1FAE9 1FAF0 1FAF9"

/-- The code points with the property `Extended Pictographic`. -/
def extendedPictographicPoints : PointSet :=
  PointSet.ofText
  "A9 AA AE AF 203C 203D 2049 204A 2122 2123 2139 213A 2194 219A 21A9 21AB 231A 231C 2328 2329 2388
  2389 23CF 23D0 23E9 23F4 23F8 23FB 24C2 24C3 25AA 25AC 25B6 25B7 25C0 25C1 25FB 25FF 2600 2606
  2607 2613 2614 2686 2690 2706 2708 2713 2714 2715 2716 2717 271D 271E 2721 2722 2728 2729 2733
  2735 2744 2745 2747 2748 274C 274D 274E 274F 2753 2756 2757 2758 2763 2768 2795 2798 27A1 27A2
  27B0 27B1 27BF 27C0 2934 2936 2B05 2B08 2B1B 2B1D 2B50 2B51 2B55 2B56 3030 3031 303D 303E 3297
  3298 3299 329A 1F000 1F100 1F10D 1F110 1F12F 1F130 1F16C 1F172 1F17E 1F180 1F18E 1F18F 1F191
  1F19B 1F1AD 1F1E6 1F201 1F210 1F21A 1F21B 1F22F 1F230 1F232 1F23B 1F23C 1F240 1F249 1F3FB 1F400
  1F53E 1F546 1F650 1F680 1F700 1F774 1F780 1F7D5 1F800 1F80C 1F810 1F848 1F850 1F85A 1F860 1F888
  1F890 1F8AE 1F900 1F90C 1F93B 1F93C 1F946 1F947 1FB00 1FC00 1FFFE"

/-- The code points with the property `Join Control`. -/
def joinControlPoints : PointSet :=
  PointSet.ofText
  "200C 200E"

/-- The code points with the property `Noncharacter Code Point`. -/
def noncharacterCodePointPoints : PointSet :=
  PointSet.ofText
  "FDD0 FDF0 FFFE 10000 1FFFE 20000 2FFFE 30000 3FFFE 40000 4FFFE 50000 5FFFE 60000 6FFFE 70000
  7FFFE 80000 8FFFE 90000 9FFFE A0000 AFFFE B0000 BFFFE C0000 CFFFE D0000 DFFFE E0000 EFFFE F0000
  FFFFE 100000 10FFFE"

/-- The code points with the property `Prepended Concatenation Mark`. -/
def prependedConcatenationMarkPoints : PointSet :=
  PointSet.ofText
  "600 606 6DD 6DE 70F 710 890 892 8E2 8E3 110BD 110BE 110CD 110CE"

/-- The code points with the property `Quotation Mark`. -/
def quotationMarkPoints : PointSet :=
  PointSet.ofText
  "22 23 27 28 AB AC BB BC 2018 2020 2039 203B 2E42 2E43 300C 3010 301D 3020 FE41 FE45 FF02 FF03
  FF07 FF08 FF62 FF64"

/-- The code points with the property `Regional Indicator`. -/
def regionalIndicatorPoints : PointSet :=
  PointSet.ofText
  "1F1E6 1F200"

/-- The code points with the property `Sentence Terminal`. -/
def sentenceTerminalPoints : PointSet :=
  PointSet.ofText
  "21 22 2E 2F 3F 40 589 58A 61D 620 6D4 6D5 700 703 7F9 7FA 837 838 839 83A 83D 83F 964 966 104A
  104C 1362 1363 1367 1369 166E 166F 1735 1737 1803 1804 1809 180A 1944 1946 1AA8 1AAC 1B5A 1B5C
  1B5E 1B60 1B7D 1B7F 1C3B 1C3D 1C7E 1C80 203C 203E 2047 204A 2E2E 2E2F 2E3C 2E3D 2E53 2E55 3002
  3003 A4FF A500 A60E A610 A6F3 A6F4 A6F7 A6F8 A876 A878 A8CE A8D0 A92F A930 A9C8 A9CA AA5D AA60
  AAF0 AAF2 ABEB ABEC FE52 FE53 FE56 FE58 FF01 FF02 FF0E FF0F FF1F FF20 FF61 FF62 10A56 10A58
  10F55 10F5A 10F86 10F8A 11047 11049 110BE 110C2 11141 11144 111C5 111C7 111CD 111CE 111DE 111E0
  11238 1123A 1123B 1123D 112A9 112AA 1144B 1144D 115C2 115C4 115C9 115D8 11641 11643 1173C 1173F
  11944 11945 11946 11947 11A42 11A44 11A9B 11A9D 11C41 11C43 11EF7 11EF9 11F43 11F45 16A6E 16A70
  16AF5 16AF6 16B37 16B39 16B44 16B45 16E98 16E99 1BC9F 1BCA0 1DA88 1DA89"

/-- The code points with the property `Terminal Punctuation`. -/
def terminalPunctuationPoints : PointSet :=
  PointSet.ofText
  "21 22 2C 2D 2E 2F 3A 3C 3F 40 37E 37F 387 388 589 58A 5C3 5C4 60C 60D 61B 61C 61D 620 6D4 6D5
  700 70B 70C 70D 7F8 7FA 830 83F 85E 85F 964 966 E5A E5C F08 F09 F0D F13 104A 104C 1361 1369 166E
  166F 16EB 16EE 1735 1737 17D4 17D7 17DA 17DB 1802 1806 1808 180A 1944 1946 1AA8 1AAC 1B5A 1B5C
  1B5D 1B60 1B7D 1B7F 1C3B 1C40 1C7E 1C80 203C 203E 2047 204A 2E2E 2E2F 2E3C 2E3D 2E41 2E42 2E4C
  2E4D 2E4E 2E50 2E53 2E55 3001 3003 A4FE A500 A60D A610 A6F3 A6F8 A876 A878 A8CE A8D0 A92F A930
  A9C7 A9CA AA5D AA60 AADF AAE0 AAF0 AAF2 ABEB ABEC FE50 FE53 FE54 FE58 FF01 FF02 FF0C FF0D FF0E
  FF0F FF1A FF1C FF1F FF20 FF61 FF62 FF64 FF65 1039F 103A0 103D0 103D1 10857 10858 1091F 10920
  10A56 10A58 10AF0 10AF6 10B3A 10B40 10B99 10B9D 10F55 10F5A 10F86 10F8A 11047 1104E 110BE 110C2
  11141 11144 111C5 111C7 111CD 111CE 111DE 111E0 11238 1123D 112A9 112AA 1144B 1144E 1145A 1145C
  115C2 115C6 115C9 115D8 11641 11643 1173C 1173F 11944 11945 11946 11947 11A42 11A44 11A9B 11A9D
  11AA1 11AA3 11C41 11C44 11C71 11C72 11EF7 11EF9 11F43 11F45 12470 12475 16A6E 16A70 16AF5 16AF6
  16B37 16B3A 16B44 16B45 16E97 16E99 1BC9F 1BCA0 1DA87 1DA8B"

/-- The code points with the property `Variation Selector`. -/
def variationSelectorPoints : PointSet :=
  PointSet.ofText
  "180B 180E 180F 1810 FE00 FE10 E0100 E01F0"

/-- The code points with the property `White Space`. -/
def whiteSpacePoints : PointSet :=
  PointSet.ofText
  "9 E 20 21 85 86 A0 A1 1680 1681 2000 200B 2028 202A 202F 2030 205F 2060 3000 3001"

/-- These properties under their names. -/
def symbolProperties : List (List String × PointSet) :=
  [(["bidicontrol", "bidic"], bidiControlPoints),
   (["bidimirrored", "bidim"], bidiMirroredPoints),
   (["dash"], dashPoints),
   (["defaultignorablecodepoint", "di"], defaultIgnorableCodePointPoints),
   (["deprecated", "dep"], deprecatedPoints),
   (["emoji"], emojiPoints),
   (["emojicomponent", "ecomp"], emojiComponentPoints),
   (["emojimodifier", "emod"], emojiModifierPoints),
   (["emojimodifierbase", "ebase"], emojiModifierBasePoints),
   (["emojipresentation", "epres"], emojiPresentationPoints),
   (["extendedpictographic", "extpict"], extendedPictographicPoints),
   (["joincontrol", "joinc"], joinControlPoints),
   (["noncharactercodepoint", "nchar"], noncharacterCodePointPoints),
   (["prependedconcatenationmark", "pcm"], prependedConcatenationMarkPoints),
   (["quotationmark", "qmark"], quotationMarkPoints),
   (["regionalindicator", "ri"], regionalIndicatorPoints),
   (["sentenceterminal", "sterm"], sentenceTerminalPoints),
   (["terminalpunctuation", "term"], terminalPunctuationPoints),
   (["variationselector", "vs"], variationSelectorPoints),
   (["whitespace", "wspace", "space"], whiteSpacePoints)]

end BoundedRegex.Unicode
