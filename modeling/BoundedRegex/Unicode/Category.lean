import BoundedRegex.Unicode.Table

/-!
# General categories

Every code point has one of thirty general categories. Their codes have two letters, the first of
which names the group: letters, marks, numbers, punctuation, symbols, separators and the rest.
-/
namespace BoundedRegex.Unicode

/-- The general category of a code point. -/
inductive Category where
  /-- Control. -/
  | cc
  /-- Format. -/
  | cf
  /-- Unassigned. -/
  | cn
  /-- Private use. -/
  | co
  /-- Surrogate. -/
  | cs
  /-- Lower case letter. -/
  | ll
  /-- Modifier letter. -/
  | lm
  /-- Other letter. -/
  | lo
  /-- Title case letter. -/
  | lt
  /-- Upper case letter. -/
  | lu
  /-- Spacing mark. -/
  | mc
  /-- Enclosing mark. -/
  | me
  /-- Non-spacing mark. -/
  | mn
  /-- Decimal number. -/
  | nd
  /-- Letter number. -/
  | nl
  /-- Other number. -/
  | no
  /-- Connector punctuation. -/
  | pc
  /-- Dash punctuation. -/
  | pd
  /-- Close punctuation. -/
  | pe
  /-- Final punctuation. -/
  | pf
  /-- Initial punctuation. -/
  | pi
  /-- Other punctuation. -/
  | po
  /-- Open punctuation. -/
  | ps
  /-- Currency symbol. -/
  | sc
  /-- Modifier symbol. -/
  | sk
  /-- Mathematical symbol. -/
  | sm
  /-- Other symbol. -/
  | so
  /-- Line separator. -/
  | zl
  /-- Paragraph separator. -/
  | zp
  /-- Space separator. -/
  | zs
  deriving DecidableEq, Repr

namespace Category

def all : List Category :=
  [.cc, .cf, .cn, .co, .cs, .ll, .lm, .lo, .lt, .lu, .mc, .me, .mn, .nd, .nl, .no, .pc, .pd,
   .pe, .pf, .pi, .po, .ps, .sc, .sk, .sm, .so, .zl, .zp, .zs]

/-- The two letters of a category, in lower case. -/
def code : Category → String
  | .cc => "cc"
  | .cf => "cf"
  | .cn => "cn"
  | .co => "co"
  | .cs => "cs"
  | .ll => "ll"
  | .lm => "lm"
  | .lo => "lo"
  | .lt => "lt"
  | .lu => "lu"
  | .mc => "mc"
  | .me => "me"
  | .mn => "mn"
  | .nd => "nd"
  | .nl => "nl"
  | .no => "no"
  | .pc => "pc"
  | .pd => "pd"
  | .pe => "pe"
  | .pf => "pf"
  | .pi => "pi"
  | .po => "po"
  | .ps => "ps"
  | .sc => "sc"
  | .sk => "sk"
  | .sm => "sm"
  | .so => "so"
  | .zl => "zl"
  | .zp => "zp"
  | .zs => "zs"

/-- The category with the given lower case code. -/
def ofCode? (code : String) : Option Category :=
  all.find? (·.code == code)

def group (c : Category) : Char :=
  c.code.front

/-- Upper, lower and title case letters. -/
def isCasedLetter : Category → Bool
  | .lu | .ll | .lt => true
  | _ => false

end Category

def categoryRuns : RunMap Category :=
  RunMap.ofText (fun name => (Category.ofCode? name).getD .cn)
  "0 cc 20 zs 21 po 24 sc 25 po 28 ps 29 pe 2A po 2B sm 2C po 2D pd 2E po 30 nd 3A po 3C sm 3F po
  41 lu 5B ps 5C po 5D pe 5E sk 5F pc 60 sk 61 ll 7B ps 7C sm 7D pe 7E sm 7F cc A0 zs A1 po A2 sc
  A6 so A7 po A8 sk A9 so AA lo AB pi AC sm AD cf AE so AF sk B0 so B1 sm B2 no B4 sk B5 ll B6 po
  B8 sk B9 no BA lo BB pf BC no BF po C0 lu D7 sm D8 lu DF ll F7 sm F8 ll 100 lu 101 ll 102 lu 103
  ll 104 lu 105 ll 106 lu 107 ll 108 lu 109 ll 10A lu 10B ll 10C lu 10D ll 10E lu 10F ll 110 lu
  111 ll 112 lu 113 ll 114 lu 115 ll 116 lu 117 ll 118 lu 119 ll 11A lu 11B ll 11C lu 11D ll 11E
  lu 11F ll 120 lu 121 ll 122 lu 123 ll 124 lu 125 ll 126 lu 127 ll 128 lu 129 ll 12A lu 12B ll
  12C lu 12D ll 12E lu 12F ll 130 lu 131 ll 132 lu 133 ll 134 lu 135 ll 136 lu 137 ll 139 lu 13A
  ll 13B lu 13C ll 13D lu 13E ll 13F lu 140 ll 141 lu 142 ll 143 lu 144 ll 145 lu 146 ll 147 lu
  148 ll 14A lu 14B ll 14C lu 14D ll 14E lu 14F ll 150 lu 151 ll 152 lu 153 ll 154 lu 155 ll 156
  lu 157 ll 158 lu 159 ll 15A lu 15B ll 15C lu 15D ll 15E lu 15F ll 160 lu 161 ll 162 lu 163 ll
  164 lu 165 ll 166 lu 167 ll 168 lu 169 ll 16A lu 16B ll 16C lu 16D ll 16E lu 16F ll 170 lu 171
  ll 172 lu 173 ll 174 lu 175 ll 176 lu 177 ll 178 lu 17A ll 17B lu 17C ll 17D lu 17E ll 181 lu
  183 ll 184 lu 185 ll 186 lu 188 ll 189 lu 18C ll 18E lu 192 ll 193 lu 195 ll 196 lu 199 ll 19C
  lu 19E ll 19F lu 1A1 ll 1A2 lu 1A3 ll 1A4 lu 1A5 ll 1A6 lu 1A8 ll 1A9 lu 1AA ll 1AC lu 1AD ll
  1AE lu 1B0 ll 1B1 lu 1B4 ll 1B5 lu 1B6 ll 1B7 lu 1B9 ll 1BB lo 1BC lu 1BD ll 1C0 lo 1C4 lu 1C5
  lt 1C6 ll 1C7 lu 1C8 lt 1C9 ll 1CA lu 1CB lt 1CC ll 1CD lu 1CE ll 1CF lu 1D0 ll 1D1 lu 1D2 ll
  1D3 lu 1D4 ll 1D5 lu 1D6 ll 1D7 lu 1D8 ll 1D9 lu 1DA ll 1DB lu 1DC ll 1DE lu 1DF ll 1E0 lu 1E1
  ll 1E2 lu 1E3 ll 1E4 lu 1E5 ll 1E6 lu 1E7 ll 1E8 lu 1E9 ll 1EA lu 1EB ll 1EC lu 1ED ll 1EE lu
  1EF ll 1F1 lu 1F2 lt 1F3 ll 1F4 lu 1F5 ll 1F6 lu 1F9 ll 1FA lu 1FB ll 1FC lu 1FD ll 1FE lu 1FF
  ll 200 lu 201 ll 202 lu 203 ll 204 lu 205 ll 206 lu 207 ll 208 lu 209 ll 20A lu 20B ll 20C lu
  20D ll 20E lu 20F ll 210 lu 211 ll 212 lu 213 ll 214 lu 215 ll 216 lu 217 ll 218 lu 219 ll 21A
  lu 21B ll 21C lu 21D ll 21E lu 21F ll 220 lu 221 ll 222 lu 223 ll 224 lu 225 ll 226 lu 227 ll
  228 lu 229 ll 22A lu 22B ll 22C lu 22D ll 22E lu 22F ll 230 lu 231 ll 232 lu 233 ll 23A lu 23C
  ll 23D lu 23F ll 241 lu 242 ll 243 lu 247 ll 248 lu 249 ll 24A lu 24B ll 24C lu 24D ll 24E lu
  24F ll 294 lo 295 ll 2B0 lm 2C2 sk 2C6 lm 2D2 sk 2E0 lm 2E5 sk 2EC lm 2ED sk 2EE lm 2EF sk 300
  mn 370 lu 371 ll 372 lu 373 ll 374 lm 375 sk 376 lu 377 ll 378 cn 37A lm 37B ll 37E po 37F lu
  380 cn 384 sk 386 lu 387 po 388 lu 38B cn 38C lu 38D cn 38E lu 390 ll 391 lu 3A2 cn 3A3 lu 3AC
  ll 3CF lu 3D0 ll 3D2 lu 3D5 ll 3D8 lu 3D9 ll 3DA lu 3DB ll 3DC lu 3DD ll 3DE lu 3DF ll 3E0 lu
  3E1 ll 3E2 lu 3E3 ll 3E4 lu 3E5 ll 3E6 lu 3E7 ll 3E8 lu 3E9 ll 3EA lu 3EB ll 3EC lu 3ED ll 3EE
  lu 3EF ll 3F4 lu 3F5 ll 3F6 sm 3F7 lu 3F8 ll 3F9 lu 3FB ll 3FD lu 430 ll 460 lu 461 ll 462 lu
  463 ll 464 lu 465 ll 466 lu 467 ll 468 lu 469 ll 46A lu 46B ll 46C lu 46D ll 46E lu 46F ll 470
  lu 471 ll 472 lu 473 ll 474 lu 475 ll 476 lu 477 ll 478 lu 479 ll 47A lu 47B ll 47C lu 47D ll
  47E lu 47F ll 480 lu 481 ll 482 so 483 mn 488 me 48A lu 48B ll 48C lu 48D ll 48E lu 48F ll 490
  lu 491 ll 492 lu 493 ll 494 lu 495 ll 496 lu 497 ll 498 lu 499 ll 49A lu 49B ll 49C lu 49D ll
  49E lu 49F ll 4A0 lu 4A1 ll 4A2 lu 4A3 ll 4A4 lu 4A5 ll 4A6 lu 4A7 ll 4A8 lu 4A9 ll 4AA lu 4AB
  ll 4AC lu 4AD ll 4AE lu 4AF ll 4B0 lu 4B1 ll 4B2 lu 4B3 ll 4B4 lu 4B5 ll 4B6 lu 4B7 ll 4B8 lu
  4B9 ll 4BA lu 4BB ll 4BC lu 4BD ll 4BE lu 4BF ll 4C0 lu 4C2 ll 4C3 lu 4C4 ll 4C5 lu 4C6 ll 4C7
  lu 4C8 ll 4C9 lu 4CA ll 4CB lu 4CC ll 4CD lu 4CE ll 4D0 lu 4D1 ll 4D2 lu 4D3 ll 4D4 lu 4D5 ll
  4D6 lu 4D7 ll 4D8 lu 4D9 ll 4DA lu 4DB ll 4DC lu 4DD ll 4DE lu 4DF ll 4E0 lu 4E1 ll 4E2 lu 4E3
  ll 4E4 lu 4E5 ll 4E6 lu 4E7 ll 4E8 lu 4E9 ll 4EA lu 4EB ll 4EC lu 4ED ll 4EE lu 4EF ll 4F0 lu
  4F1 ll 4F2 lu 4F3 ll 4F4 lu 4F5 ll 4F6 lu 4F7 ll 4F8 lu 4F9 ll 4FA lu 4FB ll 4FC lu 4FD ll 4FE
  lu 4FF ll 500 lu 501 ll 502 lu 503 ll 504 lu 505 ll 506 lu 507 ll 508 lu 509 ll 50A lu 50B ll
  50C lu 50D ll 50E lu 50F ll 510 lu 511 ll 512 lu 513 ll 514 lu 515 ll 516 lu 517 ll 518 lu 519
  ll 51A lu 51B ll 51C lu 51D ll 51E lu 51F ll 520 lu 521 ll 522 lu 523 ll 524 lu 525 ll 526 lu
  527 ll 528 lu 529 ll 52A lu 52B ll 52C lu 52D ll 52E lu 52F ll 530 cn 531 lu 557 cn 559 lm 55A
  po 560 ll 589 po 58A pd 58B cn 58D so 58F sc 590 cn 591 mn 5BE pd 5BF mn 5C0 po 5C1 mn 5C3 po
  5C4 mn 5C6 po 5C7 mn 5C8 cn 5D0 lo 5EB cn 5EF lo 5F3 po 5F5 cn 600 cf 606 sm 609 po 60B sc 60C
  po 60E so 610 mn 61B po 61C cf 61D po 620 lo 640 lm 641 lo 64B mn 660 nd 66A po 66E lo 670 mn
  671 lo 6D4 po 6D5 lo 6D6 mn 6DD cf 6DE so 6DF mn 6E5 lm 6E7 mn 6E9 so 6EA mn 6EE lo 6F0 nd 6FA
  lo 6FD so 6FF lo 700 po 70E cn 70F cf 710 lo 711 mn 712 lo 730 mn 74B cn 74D lo 7A6 mn 7B1 lo
  7B2 cn 7C0 nd 7CA lo 7EB mn 7F4 lm 7F6 so 7F7 po 7FA lm 7FB cn 7FD mn 7FE sc 800 lo 816 mn 81A
  lm 81B mn 824 lm 825 mn 828 lm 829 mn 82E cn 830 po 83F cn 840 lo 859 mn 85C cn 85E po 85F cn
  860 lo 86B cn 870 lo 888 sk 889 lo 88F cn 890 cf 892 cn 897 mn 8A0 lo 8C9 lm 8CA mn 8E2 cf 8E3
  mn 903 mc 904 lo 93A mn 93B mc 93C mn 93D lo 93E mc 941 mn 949 mc 94D mn 94E mc 950 lo 951 mn
  958 lo 962 mn 964 po 966 nd 970 po 971 lm 972 lo 981 mn 982 mc 984 cn 985 lo 98D cn 98F lo 991
  cn 993 lo 9A9 cn 9AA lo 9B1 cn 9B2 lo 9B3 cn 9B6 lo 9BA cn 9BC mn 9BD lo 9BE mc 9C1 mn 9C5 cn
  9C7 mc 9C9 cn 9CB mc 9CD mn 9CE lo 9CF cn 9D7 mc 9D8 cn 9DC lo 9DE cn 9DF lo 9E2 mn 9E4 cn 9E6
  nd 9F0 lo 9F2 sc 9F4 no 9FA so 9FB sc 9FC lo 9FD po 9FE mn 9FF cn A01 mn A03 mc A04 cn A05 lo
  A0B cn A0F lo A11 cn A13 lo A29 cn A2A lo A31 cn A32 lo A34 cn A35 lo A37 cn A38 lo A3A cn A3C
  mn A3D cn A3E mc A41 mn A43 cn A47 mn A49 cn A4B mn A4E cn A51 mn A52 cn A59 lo A5D cn A5E lo
  A5F cn A66 nd A70 mn A72 lo A75 mn A76 po A77 cn A81 mn A83 mc A84 cn A85 lo A8E cn A8F lo A92
  cn A93 lo AA9 cn AAA lo AB1 cn AB2 lo AB4 cn AB5 lo ABA cn ABC mn ABD lo ABE mc AC1 mn AC6 cn
  AC7 mn AC9 mc ACA cn ACB mc ACD mn ACE cn AD0 lo AD1 cn AE0 lo AE2 mn AE4 cn AE6 nd AF0 po AF1
  sc AF2 cn AF9 lo AFA mn B00 cn B01 mn B02 mc B04 cn B05 lo B0D cn B0F lo B11 cn B13 lo B29 cn
  B2A lo B31 cn B32 lo B34 cn B35 lo B3A cn B3C mn B3D lo B3E mc B3F mn B40 mc B41 mn B45 cn B47
  mc B49 cn B4B mc B4D mn B4E cn B55 mn B57 mc B58 cn B5C lo B5E cn B5F lo B62 mn B64 cn B66 nd
  B70 so B71 lo B72 no B78 cn B82 mn B83 lo B84 cn B85 lo B8B cn B8E lo B91 cn B92 lo B96 cn B99
  lo B9B cn B9C lo B9D cn B9E lo BA0 cn BA3 lo BA5 cn BA8 lo BAB cn BAE lo BBA cn BBE mc BC0 mn
  BC1 mc BC3 cn BC6 mc BC9 cn BCA mc BCD mn BCE cn BD0 lo BD1 cn BD7 mc BD8 cn BE6 nd BF0 no BF3
  so BF9 sc BFA so BFB cn C00 mn C01 mc C04 mn C05 lo C0D cn C0E lo C11 cn C12 lo C29 cn C2A lo
  C3A cn C3C mn C3D lo C3E mn C41 mc C45 cn C46 mn C49 cn C4A mn C4E cn C55 mn C57 cn C58 lo C5B
  cn C5D lo C5E cn C60 lo C62 mn C64 cn C66 nd C70 cn C77 po C78 no C7F so C80 lo C81 mn C82 mc
  C84 po C85 lo C8D cn C8E lo C91 cn C92 lo CA9 cn CAA lo CB4 cn CB5 lo CBA cn CBC mn CBD lo CBE
  mc CBF mn CC0 mc CC5 cn CC6 mn CC7 mc CC9 cn CCA mc CCC mn CCE cn CD5 mc CD7 cn CDD lo CDF cn
  CE0 lo CE2 mn CE4 cn CE6 nd CF0 cn CF1 lo CF3 mc CF4 cn D00 mn D02 mc D04 lo D0D cn D0E lo D11
  cn D12 lo D3B mn D3D lo D3E mc D41 mn D45 cn D46 mc D49 cn D4A mc D4D mn D4E lo D4F so D50 cn
  D54 lo D57 mc D58 no D5F lo D62 mn D64 cn D66 nd D70 no D79 so D7A lo D80 cn D81 mn D82 mc D84
  cn D85 lo D97 cn D9A lo DB2 cn DB3 lo DBC cn DBD lo DBE cn DC0 lo DC7 cn DCA mn DCB cn DCF mc
  DD2 mn DD5 cn DD6 mn DD7 cn DD8 mc DE0 cn DE6 nd DF0 cn DF2 mc DF4 po DF5 cn E01 lo E31 mn E32
  lo E34 mn E3B cn E3F sc E40 lo E46 lm E47 mn E4F po E50 nd E5A po E5C cn E81 lo E83 cn E84 lo
  E85 cn E86 lo E8B cn E8C lo EA4 cn EA5 lo EA6 cn EA7 lo EB1 mn EB2 lo EB4 mn EBD lo EBE cn EC0
  lo EC5 cn EC6 lm EC7 cn EC8 mn ECF cn ED0 nd EDA cn EDC lo EE0 cn F00 lo F01 so F04 po F13 so
  F14 po F15 so F18 mn F1A so F20 nd F2A no F34 so F35 mn F36 so F37 mn F38 so F39 mn F3A ps F3B
  pe F3C ps F3D pe F3E mc F40 lo F48 cn F49 lo F6D cn F71 mn F7F mc F80 mn F85 po F86 mn F88 lo
  F8D mn F98 cn F99 mn FBD cn FBE so FC6 mn FC7 so FCD cn FCE so FD0 po FD5 so FD9 po FDB cn 1000
  lo 102B mc 102D mn 1031 mc 1032 mn 1038 mc 1039 mn 103B mc 103D mn 103F lo 1040 nd 104A po 1050
  lo 1056 mc 1058 mn 105A lo 105E mn 1061 lo 1062 mc 1065 lo 1067 mc 106E lo 1071 mn 1075 lo 1082
  mn 1083 mc 1085 mn 1087 mc 108D mn 108E lo 108F mc 1090 nd 109A mc 109D mn 109E so 10A0 lu 10C6
  cn 10C7 lu 10C8 cn 10CD lu 10CE cn 10D0 ll 10FB po 10FC lm 10FD ll 1100 lo 1249 cn 124A lo 124E
  cn 1250 lo 1257 cn 1258 lo 1259 cn 125A lo 125E cn 1260 lo 1289 cn 128A lo 128E cn 1290 lo 12B1
  cn 12B2 lo 12B6 cn 12B8 lo 12BF cn 12C0 lo 12C1 cn 12C2 lo 12C6 cn 12C8 lo 12D7 cn 12D8 lo 1311
  cn 1312 lo 1316 cn 1318 lo 135B cn 135D mn 1360 po 1369 no 137D cn 1380 lo 1390 so 139A cn 13A0
  lu 13F6 cn 13F8 ll 13FE cn 1400 pd 1401 lo 166D so 166E po 166F lo 1680 zs 1681 lo 169B ps 169C
  pe 169D cn 16A0 lo 16EB po 16EE nl 16F1 lo 16F9 cn 1700 lo 1712 mn 1715 mc 1716 cn 171F lo 1732
  mn 1734 mc 1735 po 1737 cn 1740 lo 1752 mn 1754 cn 1760 lo 176D cn 176E lo 1771 cn 1772 mn 1774
  cn 1780 lo 17B4 mn 17B6 mc 17B7 mn 17BE mc 17C6 mn 17C7 mc 17C9 mn 17D4 po 17D7 lm 17D8 po 17DB
  sc 17DC lo 17DD mn 17DE cn 17E0 nd 17EA cn 17F0 no 17FA cn 1800 po 1806 pd 1807 po 180B mn 180E
  cf 180F mn 1810 nd 181A cn 1820 lo 1843 lm 1844 lo 1879 cn 1880 lo 1885 mn 1887 lo 18A9 mn 18AA
  lo 18AB cn 18B0 lo 18F6 cn 1900 lo 191F cn 1920 mn 1923 mc 1927 mn 1929 mc 192C cn 1930 mc 1932
  mn 1933 mc 1939 mn 193C cn 1940 so 1941 cn 1944 po 1946 nd 1950 lo 196E cn 1970 lo 1975 cn 1980
  lo 19AC cn 19B0 lo 19CA cn 19D0 nd 19DA no 19DB cn 19DE so 1A00 lo 1A17 mn 1A19 mc 1A1B mn 1A1C
  cn 1A1E po 1A20 lo 1A55 mc 1A56 mn 1A57 mc 1A58 mn 1A5F cn 1A60 mn 1A61 mc 1A62 mn 1A63 mc 1A65
  mn 1A6D mc 1A73 mn 1A7D cn 1A7F mn 1A80 nd 1A8A cn 1A90 nd 1A9A cn 1AA0 po 1AA7 lm 1AA8 po 1AAE
  cn 1AB0 mn 1ABE me 1ABF mn 1ACF cn 1B00 mn 1B04 mc 1B05 lo 1B34 mn 1B35 mc 1B36 mn 1B3B mc 1B3C
  mn 1B3D mc 1B42 mn 1B43 mc 1B45 lo 1B4D cn 1B4E po 1B50 nd 1B5A po 1B61 so 1B6B mn 1B74 so 1B7D
  po 1B80 mn 1B82 mc 1B83 lo 1BA1 mc 1BA2 mn 1BA6 mc 1BA8 mn 1BAA mc 1BAB mn 1BAE lo 1BB0 nd 1BBA
  lo 1BE6 mn 1BE7 mc 1BE8 mn 1BEA mc 1BED mn 1BEE mc 1BEF mn 1BF2 mc 1BF4 cn 1BFC po 1C00 lo 1C24
  mc 1C2C mn 1C34 mc 1C36 mn 1C38 cn 1C3B po 1C40 nd 1C4A cn 1C4D lo 1C50 nd 1C5A lo 1C78 lm 1C7E
  po 1C80 ll 1C89 lu 1C8A ll 1C8B cn 1C90 lu 1CBB cn 1CBD lu 1CC0 po 1CC8 cn 1CD0 mn 1CD3 po 1CD4
  mn 1CE1 mc 1CE2 mn 1CE9 lo 1CED mn 1CEE lo 1CF4 mn 1CF5 lo 1CF7 mc 1CF8 mn 1CFA lo 1CFB cn 1D00
  ll 1D2C lm 1D6B ll 1D78 lm 1D79 ll 1D9B lm 1DC0 mn 1E00 lu 1E01 ll 1E02 lu 1E03 ll 1E04 lu 1E05
  ll 1E06 lu 1E07 ll 1E08 lu 1E09 ll 1E0A lu 1E0B ll 1E0C lu 1E0D ll 1E0E lu 1E0F ll 1E10 lu 1E11
  ll 1E12 lu 1E13 ll 1E14 lu 1E15 ll 1E16 lu 1E17 ll 1E18 lu 1E19 ll 1E1A lu 1E1B ll 1E1C lu 1E1D
  ll 1E1E lu 1E1F ll 1E20 lu 1E21 ll 1E22 lu 1E23 ll 1E24 lu 1E25 ll 1E26 lu 1E27 ll 1E28 lu 1E29
  ll 1E2A lu 1E2B ll 1E2C lu 1E2D ll 1E2E lu 1E2F ll 1E30 lu 1E31 ll 1E32 lu 1E33 ll 1E34 lu 1E35
  ll 1E36 lu 1E37 ll 1E38 lu 1E39 ll 1E3A lu 1E3B ll 1E3C lu 1E3D ll 1E3E lu 1E3F ll 1E40 lu 1E41
  ll 1E42 lu 1E43 ll 1E44 lu 1E45 ll 1E46 lu 1E47 ll 1E48 lu 1E49 ll 1E4A lu 1E4B ll 1E4C lu 1E4D
  ll 1E4E lu 1E4F ll 1E50 lu 1E51 ll 1E52 lu 1E53 ll 1E54 lu 1E55 ll 1E56 lu 1E57 ll 1E58 lu 1E59
  ll 1E5A lu 1E5B ll 1E5C lu 1E5D ll 1E5E lu 1E5F ll 1E60 lu 1E61 ll 1E62 lu 1E63 ll 1E64 lu 1E65
  ll 1E66 lu 1E67 ll 1E68 lu 1E69 ll 1E6A lu 1E6B ll 1E6C lu 1E6D ll 1E6E lu 1E6F ll 1E70 lu 1E71
  ll 1E72 lu 1E73 ll 1E74 lu 1E75 ll 1E76 lu 1E77 ll 1E78 lu 1E79 ll 1E7A lu 1E7B ll 1E7C lu 1E7D
  ll 1E7E lu 1E7F ll 1E80 lu 1E81 ll 1E82 lu 1E83 ll 1E84 lu 1E85 ll 1E86 lu 1E87 ll 1E88 lu 1E89
  ll 1E8A lu 1E8B ll 1E8C lu 1E8D ll 1E8E lu 1E8F ll 1E90 lu 1E91 ll 1E92 lu 1E93 ll 1E94 lu 1E95
  ll 1E9E lu 1E9F ll 1EA0 lu 1EA1 ll 1EA2 lu 1EA3 ll 1EA4 lu 1EA5 ll 1EA6 lu 1EA7 ll 1EA8 lu 1EA9
  ll 1EAA lu 1EAB ll 1EAC lu 1EAD ll 1EAE lu 1EAF ll 1EB0 lu 1EB1 ll 1EB2 lu 1EB3 ll 1EB4 lu 1EB5
  ll 1EB6 lu 1EB7 ll 1EB8 lu 1EB9 ll 1EBA lu 1EBB ll 1EBC lu 1EBD ll 1EBE lu 1EBF ll 1EC0 lu 1EC1
  ll 1EC2 lu 1EC3 ll 1EC4 lu 1EC5 ll 1EC6 lu 1EC7 ll 1EC8 lu 1EC9 ll 1ECA lu 1ECB ll 1ECC lu 1ECD
  ll 1ECE lu 1ECF ll 1ED0 lu 1ED1 ll 1ED2 lu 1ED3 ll 1ED4 lu 1ED5 ll 1ED6 lu 1ED7 ll 1ED8 lu 1ED9
  ll 1EDA lu 1EDB ll 1EDC lu 1EDD ll 1EDE lu 1EDF ll 1EE0 lu 1EE1 ll 1EE2 lu 1EE3 ll 1EE4 lu 1EE5
  ll 1EE6 lu 1EE7 ll 1EE8 lu 1EE9 ll 1EEA lu 1EEB ll 1EEC lu 1EED ll 1EEE lu 1EEF ll 1EF0 lu 1EF1
  ll 1EF2 lu 1EF3 ll 1EF4 lu 1EF5 ll 1EF6 lu 1EF7 ll 1EF8 lu 1EF9 ll 1EFA lu 1EFB ll 1EFC lu 1EFD
  ll 1EFE lu 1EFF ll 1F08 lu 1F10 ll 1F16 cn 1F18 lu 1F1E cn 1F20 ll 1F28 lu 1F30 ll 1F38 lu 1F40
  ll 1F46 cn 1F48 lu 1F4E cn 1F50 ll 1F58 cn 1F59 lu 1F5A cn 1F5B lu 1F5C cn 1F5D lu 1F5E cn 1F5F
  lu 1F60 ll 1F68 lu 1F70 ll 1F7E cn 1F80 ll 1F88 lt 1F90 ll 1F98 lt 1FA0 ll 1FA8 lt 1FB0 ll 1FB5
  cn 1FB6 ll 1FB8 lu 1FBC lt 1FBD sk 1FBE ll 1FBF sk 1FC2 ll 1FC5 cn 1FC6 ll 1FC8 lu 1FCC lt 1FCD
  sk 1FD0 ll 1FD4 cn 1FD6 ll 1FD8 lu 1FDC cn 1FDD sk 1FE0 ll 1FE8 lu 1FED sk 1FF0 cn 1FF2 ll 1FF5
  cn 1FF6 ll 1FF8 lu 1FFC lt 1FFD sk 1FFF cn 2000 zs 200B cf 2010 pd 2016 po 2018 pi 2019 pf 201A
  ps 201B pi 201D pf 201E ps 201F pi 2020 po 2028 zl 2029 zp 202A cf 202F zs 2030 po 2039 pi 203A
  pf 203B po 203F pc 2041 po 2044 sm 2045 ps 2046 pe 2047 po 2052 sm 2053 po 2054 pc 2055 po 205F
  zs 2060 cf 2065 cn 2066 cf 2070 no 2071 lm 2072 cn 2074 no 207A sm 207D ps 207E pe 207F lm 2080
  no 208A sm 208D ps 208E pe 208F cn 2090 lm 209D cn 20A0 sc 20C1 cn 20D0 mn 20DD me 20E1 mn 20E2
  me 20E5 mn 20F1 cn 2100 so 2102 lu 2103 so 2107 lu 2108 so 210A ll 210B lu 210E ll 2110 lu 2113
  ll 2114 so 2115 lu 2116 so 2118 sm 2119 lu 211E so 2124 lu 2125 so 2126 lu 2127 so 2128 lu 2129
  so 212A lu 212E so 212F ll 2130 lu 2134 ll 2135 lo 2139 ll 213A so 213C ll 213E lu 2140 sm 2145
  lu 2146 ll 214A so 214B sm 214C so 214E ll 214F so 2150 no 2160 nl 2183 lu 2184 ll 2185 nl 2189
  no 218A so 218C cn 2190 sm 2195 so 219A sm 219C so 21A0 sm 21A1 so 21A3 sm 21A4 so 21A6 sm 21A7
  so 21AE sm 21AF so 21CE sm 21D0 so 21D2 sm 21D3 so 21D4 sm 21D5 so 21F4 sm 2300 so 2308 ps 2309
  pe 230A ps 230B pe 230C so 2320 sm 2322 so 2329 ps 232A pe 232B so 237C sm 237D so 239B sm 23B4
  so 23DC sm 23E2 so 242A cn 2440 so 244B cn 2460 no 249C so 24EA no 2500 so 25B7 sm 25B8 so 25C1
  sm 25C2 so 25F8 sm 2600 so 266F sm 2670 so 2768 ps 2769 pe 276A ps 276B pe 276C ps 276D pe 276E
  ps 276F pe 2770 ps 2771 pe 2772 ps 2773 pe 2774 ps 2775 pe 2776 no 2794 so 27C0 sm 27C5 ps 27C6
  pe 27C7 sm 27E6 ps 27E7 pe 27E8 ps 27E9 pe 27EA ps 27EB pe 27EC ps 27ED pe 27EE ps 27EF pe 27F0
  sm 2800 so 2900 sm 2983 ps 2984 pe 2985 ps 2986 pe 2987 ps 2988 pe 2989 ps 298A pe 298B ps 298C
  pe 298D ps 298E pe 298F ps 2990 pe 2991 ps 2992 pe 2993 ps 2994 pe 2995 ps 2996 pe 2997 ps 2998
  pe 2999 sm 29D8 ps 29D9 pe 29DA ps 29DB pe 29DC sm 29FC ps 29FD pe 29FE sm 2B00 so 2B30 sm 2B45
  so 2B47 sm 2B4D so 2B74 cn 2B76 so 2B96 cn 2B97 so 2C00 lu 2C30 ll 2C60 lu 2C61 ll 2C62 lu 2C65
  ll 2C67 lu 2C68 ll 2C69 lu 2C6A ll 2C6B lu 2C6C ll 2C6D lu 2C71 ll 2C72 lu 2C73 ll 2C75 lu 2C76
  ll 2C7C lm 2C7E lu 2C81 ll 2C82 lu 2C83 ll 2C84 lu 2C85 ll 2C86 lu 2C87 ll 2C88 lu 2C89 ll 2C8A
  lu 2C8B ll 2C8C lu 2C8D ll 2C8E lu 2C8F ll 2C90 lu 2C91 ll 2C92 lu 2C93 ll 2C94 lu 2C95 ll 2C96
  lu 2C97 ll 2C98 lu 2C99 ll 2C9A lu 2C9B ll 2C9C lu 2C9D ll 2C9E lu 2C9F ll 2CA0 lu 2CA1 ll 2CA2
  lu 2CA3 ll 2CA4 lu 2CA5 ll 2CA6 lu 2CA7 ll 2CA8 lu 2CA9 ll 2CAA lu 2CAB ll 2CAC lu 2CAD ll 2CAE
  lu 2CAF ll 2CB0 lu 2CB1 ll 2CB2 lu 2CB3 ll 2CB4 lu 2CB5 ll 2CB6 lu 2CB7 ll 2CB8 lu 2CB9 ll 2CBA
  lu 2CBB ll 2CBC lu 2CBD ll 2CBE lu 2CBF ll 2CC0 lu 2CC1 ll 2CC2 lu 2CC3 ll 2CC4 lu 2CC5 ll 2CC6
  lu 2CC7 ll 2CC8 lu 2CC9 ll 2CCA lu 2CCB ll 2CCC lu 2CCD ll 2CCE lu 2CCF ll 2CD0 lu 2CD1 ll 2CD2
  lu 2CD3 ll 2CD4 lu 2CD5 ll 2CD6 lu 2CD7 ll 2CD8 lu 2CD9 ll 2CDA lu 2CDB ll 2CDC lu 2CDD ll 2CDE
  lu 2CDF ll 2CE0 lu 2CE1 ll 2CE2 lu 2CE3 ll 2CE5 so 2CEB lu 2CEC ll 2CED lu 2CEE ll 2CEF mn 2CF2
  lu 2CF3 ll 2CF4 cn 2CF9 po 2CFD no 2CFE po 2D00 ll 2D26 cn 2D27 ll 2D28 cn 2D2D ll 2D2E cn 2D30
  lo 2D68 cn 2D6F lm 2D70 po 2D71 cn 2D7F mn 2D80 lo 2D97 cn 2DA0 lo 2DA7 cn 2DA8 lo 2DAF cn 2DB0
  lo 2DB7 cn 2DB8 lo 2DBF cn 2DC0 lo 2DC7 cn 2DC8 lo 2DCF cn 2DD0 lo 2DD7 cn 2DD8 lo 2DDF cn 2DE0
  mn 2E00 po 2E02 pi 2E03 pf 2E04 pi 2E05 pf 2E06 po 2E09 pi 2E0A pf 2E0B po 2E0C pi 2E0D pf 2E0E
  po 2E17 pd 2E18 po 2E1A pd 2E1B po 2E1C pi 2E1D pf 2E1E po 2E20 pi 2E21 pf 2E22 ps 2E23 pe 2E24
  ps 2E25 pe 2E26 ps 2E27 pe 2E28 ps 2E29 pe 2E2A po 2E2F lm 2E30 po 2E3A pd 2E3C po 2E40 pd 2E41
  po 2E42 ps 2E43 po 2E50 so 2E52 po 2E55 ps 2E56 pe 2E57 ps 2E58 pe 2E59 ps 2E5A pe 2E5B ps 2E5C
  pe 2E5D pd 2E5E cn 2E80 so 2E9A cn 2E9B so 2EF4 cn 2F00 so 2FD6 cn 2FF0 so 3000 zs 3001 po 3004
  so 3005 lm 3006 lo 3007 nl 3008 ps 3009 pe 300A ps 300B pe 300C ps 300D pe 300E ps 300F pe 3010
  ps 3011 pe 3012 so 3014 ps 3015 pe 3016 ps 3017 pe 3018 ps 3019 pe 301A ps 301B pe 301C pd 301D
  ps 301E pe 3020 so 3021 nl 302A mn 302E mc 3030 pd 3031 lm 3036 so 3038 nl 303B lm 303C lo 303D
  po 303E so 3040 cn 3041 lo 3097 cn 3099 mn 309B sk 309D lm 309F lo 30A0 pd 30A1 lo 30FB po 30FC
  lm 30FF lo 3100 cn 3105 lo 3130 cn 3131 lo 318F cn 3190 so 3192 no 3196 so 31A0 lo 31C0 so 31E6
  cn 31EF so 31F0 lo 3200 so 321F cn 3220 no 322A so 3248 no 3250 so 3251 no 3260 so 3280 no 328A
  so 32B1 no 32C0 so 3400 lo 4DC0 so 4E00 lo A015 lm A016 lo A48D cn A490 so A4C7 cn A4D0 lo A4F8
  lm A4FE po A500 lo A60C lm A60D po A610 lo A620 nd A62A lo A62C cn A640 lu A641 ll A642 lu A643
  ll A644 lu A645 ll A646 lu A647 ll A648 lu A649 ll A64A lu A64B ll A64C lu A64D ll A64E lu A64F
  ll A650 lu A651 ll A652 lu A653 ll A654 lu A655 ll A656 lu A657 ll A658 lu A659 ll A65A lu A65B
  ll A65C lu A65D ll A65E lu A65F ll A660 lu A661 ll A662 lu A663 ll A664 lu A665 ll A666 lu A667
  ll A668 lu A669 ll A66A lu A66B ll A66C lu A66D ll A66E lo A66F mn A670 me A673 po A674 mn A67E
  po A67F lm A680 lu A681 ll A682 lu A683 ll A684 lu A685 ll A686 lu A687 ll A688 lu A689 ll A68A
  lu A68B ll A68C lu A68D ll A68E lu A68F ll A690 lu A691 ll A692 lu A693 ll A694 lu A695 ll A696
  lu A697 ll A698 lu A699 ll A69A lu A69B ll A69C lm A69E mn A6A0 lo A6E6 nl A6F0 mn A6F2 po A6F8
  cn A700 sk A717 lm A720 sk A722 lu A723 ll A724 lu A725 ll A726 lu A727 ll A728 lu A729 ll A72A
  lu A72B ll A72C lu A72D ll A72E lu A72F ll A732 lu A733 ll A734 lu A735 ll A736 lu A737 ll A738
  lu A739 ll A73A lu A73B ll A73C lu A73D ll A73E lu A73F ll A740 lu A741 ll A742 lu A743 ll A744
  lu A745 ll A746 lu A747 ll A748 lu A749 ll A74A lu A74B ll A74C lu A74D ll A74E lu A74F ll A750
  lu A751 ll A752 lu A753 ll A754 lu A755 ll A756 lu A757 ll A758 lu A759 ll A75A lu A75B ll A75C
  lu A75D ll A75E lu A75F ll A760 lu A761 ll A762 lu A763 ll A764 lu A765 ll A766 lu A767 ll A768
  lu A769 ll A76A lu A76B ll A76C lu A76D ll A76E lu A76F ll A770 lm A771 ll A779 lu A77A ll A77B
  lu A77C ll A77D lu A77F ll A780 lu A781 ll A782 lu A783 ll A784 lu A785 ll A786 lu A787 ll A788
  lm A789 sk A78B lu A78C ll A78D lu A78E ll A78F lo A790 lu A791 ll A792 lu A793 ll A796 lu A797
  ll A798 lu A799 ll A79A lu A79B ll A79C lu A79D ll A79E lu A79F ll A7A0 lu A7A1 ll A7A2 lu A7A3
  ll A7A4 lu A7A5 ll A7A6 lu A7A7 ll A7A8 lu A7A9 ll A7AA lu A7AF ll A7B0 lu A7B5 ll A7B6 lu A7B7
  ll A7B8 lu A7B9 ll A7BA lu A7BB ll A7BC lu A7BD ll A7BE lu A7BF ll A7C0 lu A7C1 ll A7C2 lu A7C3
  ll A7C4 lu A7C8 ll A7C9 lu A7CA ll A7CB lu A7CD ll A7CE cn A7D0 lu A7D1 ll A7D2 cn A7D3 ll A7D4
  cn A7D5 ll A7D6 lu A7D7 ll A7D8 lu A7D9 ll A7DA lu A7DB ll A7DC lu A7DD cn A7F2 lm A7F5 lu A7F6
  ll A7F7 lo A7F8 lm A7FA ll A7FB lo A802 mn A803 lo A806 mn A807 lo A80B mn A80C lo A823 mc A825
  mn A827 mc A828 so A82C mn A82D cn A830 no A836 so A838 sc A839 so A83A cn A840 lo A874 po A878
  cn A880 mc A882 lo A8B4 mc A8C4 mn A8C6 cn A8CE po A8D0 nd A8DA cn A8E0 mn A8F2 lo A8F8 po A8FB
  lo A8FC po A8FD lo A8FF mn A900 nd A90A lo A926 mn A92E po A930 lo A947 mn A952 mc A954 cn A95F
  po A960 lo A97D cn A980 mn A983 mc A984 lo A9B3 mn A9B4 mc A9B6 mn A9BA mc A9BC mn A9BE mc A9C1
  po A9CE cn A9CF lm A9D0 nd A9DA cn A9DE po A9E0 lo A9E5 mn A9E6 lm A9E7 lo A9F0 nd A9FA lo A9FF
  cn AA00 lo AA29 mn AA2F mc AA31 mn AA33 mc AA35 mn AA37 cn AA40 lo AA43 mn AA44 lo AA4C mn AA4D
  mc AA4E cn AA50 nd AA5A cn AA5C po AA60 lo AA70 lm AA71 lo AA77 so AA7A lo AA7B mc AA7C mn AA7D
  mc AA7E lo AAB0 mn AAB1 lo AAB2 mn AAB5 lo AAB7 mn AAB9 lo AABE mn AAC0 lo AAC1 mn AAC2 lo AAC3
  cn AADB lo AADD lm AADE po AAE0 lo AAEB mc AAEC mn AAEE mc AAF0 po AAF2 lo AAF3 lm AAF5 mc AAF6
  mn AAF7 cn AB01 lo AB07 cn AB09 lo AB0F cn AB11 lo AB17 cn AB20 lo AB27 cn AB28 lo AB2F cn AB30
  ll AB5B sk AB5C lm AB60 ll AB69 lm AB6A sk AB6C cn AB70 ll ABC0 lo ABE3 mc ABE5 mn ABE6 mc ABE8
  mn ABE9 mc ABEB po ABEC mc ABED mn ABEE cn ABF0 nd ABFA cn AC00 lo D7A4 cn D7B0 lo D7C7 cn D7CB
  lo D7FC cn D800 cs E000 co F900 lo FA6E cn FA70 lo FADA cn FB00 ll FB07 cn FB13 ll FB18 cn FB1D
  lo FB1E mn FB1F lo FB29 sm FB2A lo FB37 cn FB38 lo FB3D cn FB3E lo FB3F cn FB40 lo FB42 cn FB43
  lo FB45 cn FB46 lo FBB2 sk FBC3 cn FBD3 lo FD3E pe FD3F ps FD40 so FD50 lo FD90 cn FD92 lo FDC8
  cn FDCF so FDD0 cn FDF0 lo FDFC sc FDFD so FE00 mn FE10 po FE17 ps FE18 pe FE19 po FE1A cn FE20
  mn FE30 po FE31 pd FE33 pc FE35 ps FE36 pe FE37 ps FE38 pe FE39 ps FE3A pe FE3B ps FE3C pe FE3D
  ps FE3E pe FE3F ps FE40 pe FE41 ps FE42 pe FE43 ps FE44 pe FE45 po FE47 ps FE48 pe FE49 po FE4D
  pc FE50 po FE53 cn FE54 po FE58 pd FE59 ps FE5A pe FE5B ps FE5C pe FE5D ps FE5E pe FE5F po FE62
  sm FE63 pd FE64 sm FE67 cn FE68 po FE69 sc FE6A po FE6C cn FE70 lo FE75 cn FE76 lo FEFD cn FEFF
  cf FF00 cn FF01 po FF04 sc FF05 po FF08 ps FF09 pe FF0A po FF0B sm FF0C po FF0D pd FF0E po FF10
  nd FF1A po FF1C sm FF1F po FF21 lu FF3B ps FF3C po FF3D pe FF3E sk FF3F pc FF40 sk FF41 ll FF5B
  ps FF5C sm FF5D pe FF5E sm FF5F ps FF60 pe FF61 po FF62 ps FF63 pe FF64 po FF66 lo FF70 lm FF71
  lo FF9E lm FFA0 lo FFBF cn FFC2 lo FFC8 cn FFCA lo FFD0 cn FFD2 lo FFD8 cn FFDA lo FFDD cn FFE0
  sc FFE2 sm FFE3 sk FFE4 so FFE5 sc FFE7 cn FFE8 so FFE9 sm FFED so FFEF cn FFF9 cf FFFC so FFFE
  cn 10000 lo 1000C cn 1000D lo 10027 cn 10028 lo 1003B cn 1003C lo 1003E cn 1003F lo 1004E cn
  10050 lo 1005E cn 10080 lo 100FB cn 10100 po 10103 cn 10107 no 10134 cn 10137 so 10140 nl 10175
  no 10179 so 1018A no 1018C so 1018F cn 10190 so 1019D cn 101A0 so 101A1 cn 101D0 so 101FD mn
  101FE cn 10280 lo 1029D cn 102A0 lo 102D1 cn 102E0 mn 102E1 no 102FC cn 10300 lo 10320 no 10324
  cn 1032D lo 10341 nl 10342 lo 1034A nl 1034B cn 10350 lo 10376 mn 1037B cn 10380 lo 1039E cn
  1039F po 103A0 lo 103C4 cn 103C8 lo 103D0 po 103D1 nl 103D6 cn 10400 lu 10428 ll 10450 lo 1049E
  cn 104A0 nd 104AA cn 104B0 lu 104D4 cn 104D8 ll 104FC cn 10500 lo 10528 cn 10530 lo 10564 cn
  1056F po 10570 lu 1057B cn 1057C lu 1058B cn 1058C lu 10593 cn 10594 lu 10596 cn 10597 ll 105A2
  cn 105A3 ll 105B2 cn 105B3 ll 105BA cn 105BB ll 105BD cn 105C0 lo 105F4 cn 10600 lo 10737 cn
  10740 lo 10756 cn 10760 lo 10768 cn 10780 lm 10786 cn 10787 lm 107B1 cn 107B2 lm 107BB cn 10800
  lo 10806 cn 10808 lo 10809 cn 1080A lo 10836 cn 10837 lo 10839 cn 1083C lo 1083D cn 1083F lo
  10856 cn 10857 po 10858 no 10860 lo 10877 so 10879 no 10880 lo 1089F cn 108A7 no 108B0 cn 108E0
  lo 108F3 cn 108F4 lo 108F6 cn 108FB no 10900 lo 10916 no 1091C cn 1091F po 10920 lo 1093A cn
  1093F po 10940 cn 10980 lo 109B8 cn 109BC no 109BE lo 109C0 no 109D0 cn 109D2 no 10A00 lo 10A01
  mn 10A04 cn 10A05 mn 10A07 cn 10A0C mn 10A10 lo 10A14 cn 10A15 lo 10A18 cn 10A19 lo 10A36 cn
  10A38 mn 10A3B cn 10A3F mn 10A40 no 10A49 cn 10A50 po 10A59 cn 10A60 lo 10A7D no 10A7F po 10A80
  lo 10A9D no 10AA0 cn 10AC0 lo 10AC8 so 10AC9 lo 10AE5 mn 10AE7 cn 10AEB no 10AF0 po 10AF7 cn
  10B00 lo 10B36 cn 10B39 po 10B40 lo 10B56 cn 10B58 no 10B60 lo 10B73 cn 10B78 no 10B80 lo 10B92
  cn 10B99 po 10B9D cn 10BA9 no 10BB0 cn 10C00 lo 10C49 cn 10C80 lu 10CB3 cn 10CC0 ll 10CF3 cn
  10CFA no 10D00 lo 10D24 mn 10D28 cn 10D30 nd 10D3A cn 10D40 nd 10D4A lo 10D4E lm 10D4F lo 10D50
  lu 10D66 cn 10D69 mn 10D6E pd 10D6F lm 10D70 ll 10D86 cn 10D8E sm 10D90 cn 10E60 no 10E7F cn
  10E80 lo 10EAA cn 10EAB mn 10EAD pd 10EAE cn 10EB0 lo 10EB2 cn 10EC2 lo 10EC5 cn 10EFC mn 10F00
  lo 10F1D no 10F27 lo 10F28 cn 10F30 lo 10F46 mn 10F51 no 10F55 po 10F5A cn 10F70 lo 10F82 mn
  10F86 po 10F8A cn 10FB0 lo 10FC5 no 10FCC cn 10FE0 lo 10FF7 cn 11000 mc 11001 mn 11002 mc 11003
  lo 11038 mn 11047 po 1104E cn 11052 no 11066 nd 11070 mn 11071 lo 11073 mn 11075 lo 11076 cn
  1107F mn 11082 mc 11083 lo 110B0 mc 110B3 mn 110B7 mc 110B9 mn 110BB po 110BD cf 110BE po 110C2
  mn 110C3 cn 110CD cf 110CE cn 110D0 lo 110E9 cn 110F0 nd 110FA cn 11100 mn 11103 lo 11127 mn
  1112C mc 1112D mn 11135 cn 11136 nd 11140 po 11144 lo 11145 mc 11147 lo 11148 cn 11150 lo 11173
  mn 11174 po 11176 lo 11177 cn 11180 mn 11182 mc 11183 lo 111B3 mc 111B6 mn 111BF mc 111C1 lo
  111C5 po 111C9 mn 111CD po 111CE mc 111CF mn 111D0 nd 111DA lo 111DB po 111DC lo 111DD po 111E0
  cn 111E1 no 111F5 cn 11200 lo 11212 cn 11213 lo 1122C mc 1122F mn 11232 mc 11234 mn 11235 mc
  11236 mn 11238 po 1123E mn 1123F lo 11241 mn 11242 cn 11280 lo 11287 cn 11288 lo 11289 cn 1128A
  lo 1128E cn 1128F lo 1129E cn 1129F lo 112A9 po 112AA cn 112B0 lo 112DF mn 112E0 mc 112E3 mn
  112EB cn 112F0 nd 112FA cn 11300 mn 11302 mc 11304 cn 11305 lo 1130D cn 1130F lo 11311 cn 11313
  lo 11329 cn 1132A lo 11331 cn 11332 lo 11334 cn 11335 lo 1133A cn 1133B mn 1133D lo 1133E mc
  11340 mn 11341 mc 11345 cn 11347 mc 11349 cn 1134B mc 1134E cn 11350 lo 11351 cn 11357 mc 11358
  cn 1135D lo 11362 mc 11364 cn 11366 mn 1136D cn 11370 mn 11375 cn 11380 lo 1138A cn 1138B lo
  1138C cn 1138E lo 1138F cn 11390 lo 113B6 cn 113B7 lo 113B8 mc 113BB mn 113C1 cn 113C2 mc 113C3
  cn 113C5 mc 113C6 cn 113C7 mc 113CB cn 113CC mc 113CE mn 113CF mc 113D0 mn 113D1 lo 113D2 mn
  113D3 lo 113D4 po 113D6 cn 113D7 po 113D9 cn 113E1 mn 113E3 cn 11400 lo 11435 mc 11438 mn 11440
  mc 11442 mn 11445 mc 11446 mn 11447 lo 1144B po 11450 nd 1145A po 1145C cn 1145D po 1145E mn
  1145F lo 11462 cn 11480 lo 114B0 mc 114B3 mn 114B9 mc 114BA mn 114BB mc 114BF mn 114C1 mc 114C2
  mn 114C4 lo 114C6 po 114C7 lo 114C8 cn 114D0 nd 114DA cn 11580 lo 115AF mc 115B2 mn 115B6 cn
  115B8 mc 115BC mn 115BE mc 115BF mn 115C1 po 115D8 lo 115DC mn 115DE cn 11600 lo 11630 mc 11633
  mn 1163B mc 1163D mn 1163E mc 1163F mn 11641 po 11644 lo 11645 cn 11650 nd 1165A cn 11660 po
  1166D cn 11680 lo 116AB mn 116AC mc 116AD mn 116AE mc 116B0 mn 116B6 mc 116B7 mn 116B8 lo 116B9
  po 116BA cn 116C0 nd 116CA cn 116D0 nd 116E4 cn 11700 lo 1171B cn 1171D mn 11720 mc 11722 mn
  11726 mc 11727 mn 1172C cn 11730 nd 1173A no 1173C po 1173F so 11740 lo 11747 cn 11800 lo 1182C
  mc 1182F mn 11838 mc 11839 mn 1183B po 1183C cn 118A0 lu 118C0 ll 118E0 nd 118EA no 118F3 cn
  118FF lo 11907 cn 11909 lo 1190A cn 1190C lo 11914 cn 11915 lo 11917 cn 11918 lo 11930 mc 11936
  cn 11937 mc 11939 cn 1193B mn 1193D mc 1193E mn 1193F lo 11940 mc 11941 lo 11942 mc 11943 mn
  11944 po 11947 cn 11950 nd 1195A cn 119A0 lo 119A8 cn 119AA lo 119D1 mc 119D4 mn 119D8 cn 119DA
  mn 119DC mc 119E0 mn 119E1 lo 119E2 po 119E3 lo 119E4 mc 119E5 cn 11A00 lo 11A01 mn 11A0B lo
  11A33 mn 11A39 mc 11A3A lo 11A3B mn 11A3F po 11A47 mn 11A48 cn 11A50 lo 11A51 mn 11A57 mc 11A59
  mn 11A5C lo 11A8A mn 11A97 mc 11A98 mn 11A9A po 11A9D lo 11A9E po 11AA3 cn 11AB0 lo 11AF9 cn
  11B00 po 11B0A cn 11BC0 lo 11BE1 po 11BE2 cn 11BF0 nd 11BFA cn 11C00 lo 11C09 cn 11C0A lo 11C2F
  mc 11C30 mn 11C37 cn 11C38 mn 11C3E mc 11C3F mn 11C40 lo 11C41 po 11C46 cn 11C50 nd 11C5A no
  11C6D cn 11C70 po 11C72 lo 11C90 cn 11C92 mn 11CA8 cn 11CA9 mc 11CAA mn 11CB1 mc 11CB2 mn 11CB4
  mc 11CB5 mn 11CB7 cn 11D00 lo 11D07 cn 11D08 lo 11D0A cn 11D0B lo 11D31 mn 11D37 cn 11D3A mn
  11D3B cn 11D3C mn 11D3E cn 11D3F mn 11D46 lo 11D47 mn 11D48 cn 11D50 nd 11D5A cn 11D60 lo 11D66
  cn 11D67 lo 11D69 cn 11D6A lo 11D8A mc 11D8F cn 11D90 mn 11D92 cn 11D93 mc 11D95 mn 11D96 mc
  11D97 mn 11D98 lo 11D99 cn 11DA0 nd 11DAA cn 11EE0 lo 11EF3 mn 11EF5 mc 11EF7 po 11EF9 cn 11F00
  mn 11F02 lo 11F03 mc 11F04 lo 11F11 cn 11F12 lo 11F34 mc 11F36 mn 11F3B cn 11F3E mc 11F40 mn
  11F41 mc 11F42 mn 11F43 po 11F50 nd 11F5A mn 11F5B cn 11FB0 lo 11FB1 cn 11FC0 no 11FD5 so 11FDD
  sc 11FE1 so 11FF2 cn 11FFF po 12000 lo 1239A cn 12400 nl 1246F cn 12470 po 12475 cn 12480 lo
  12544 cn 12F90 lo 12FF1 po 12FF3 cn 13000 lo 13430 cf 13440 mn 13441 lo 13447 mn 13456 cn 13460
  lo 143FB cn 14400 lo 14647 cn 16100 lo 1611E mn 1612A mc 1612D mn 16130 nd 1613A cn 16800 lo
  16A39 cn 16A40 lo 16A5F cn 16A60 nd 16A6A cn 16A6E po 16A70 lo 16ABF cn 16AC0 nd 16ACA cn 16AD0
  lo 16AEE cn 16AF0 mn 16AF5 po 16AF6 cn 16B00 lo 16B30 mn 16B37 po 16B3C so 16B40 lm 16B44 po
  16B45 so 16B46 cn 16B50 nd 16B5A cn 16B5B no 16B62 cn 16B63 lo 16B78 cn 16B7D lo 16B90 cn 16D40
  lm 16D43 lo 16D6B lm 16D6D po 16D70 nd 16D7A cn 16E40 lu 16E60 ll 16E80 no 16E97 po 16E9B cn
  16F00 lo 16F4B cn 16F4F mn 16F50 lo 16F51 mc 16F88 cn 16F8F mn 16F93 lm 16FA0 cn 16FE0 lm 16FE2
  po 16FE3 lm 16FE4 mn 16FE5 cn 16FF0 mc 16FF2 cn 17000 lo 187F8 cn 18800 lo 18CD6 cn 18CFF lo
  18D09 cn 1AFF0 lm 1AFF4 cn 1AFF5 lm 1AFFC cn 1AFFD lm 1AFFF cn 1B000 lo 1B123 cn 1B132 lo 1B133
  cn 1B150 lo 1B153 cn 1B155 lo 1B156 cn 1B164 lo 1B168 cn 1B170 lo 1B2FC cn 1BC00 lo 1BC6B cn
  1BC70 lo 1BC7D cn 1BC80 lo 1BC89 cn 1BC90 lo 1BC9A cn 1BC9C so 1BC9D mn 1BC9F po 1BCA0 cf 1BCA4
  cn 1CC00 so 1CCF0 nd 1CCFA cn 1CD00 so 1CEB4 cn 1CF00 mn 1CF2E cn 1CF30 mn 1CF47 cn 1CF50 so
  1CFC4 cn 1D000 so 1D0F6 cn 1D100 so 1D127 cn 1D129 so 1D165 mc 1D167 mn 1D16A so 1D16D mc 1D173
  cf 1D17B mn 1D183 so 1D185 mn 1D18C so 1D1AA mn 1D1AE so 1D1EB cn 1D200 so 1D242 mn 1D245 so
  1D246 cn 1D2C0 no 1D2D4 cn 1D2E0 no 1D2F4 cn 1D300 so 1D357 cn 1D360 no 1D379 cn 1D400 lu 1D41A
  ll 1D434 lu 1D44E ll 1D455 cn 1D456 ll 1D468 lu 1D482 ll 1D49C lu 1D49D cn 1D49E lu 1D4A0 cn
  1D4A2 lu 1D4A3 cn 1D4A5 lu 1D4A7 cn 1D4A9 lu 1D4AD cn 1D4AE lu 1D4B6 ll 1D4BA cn 1D4BB ll 1D4BC
  cn 1D4BD ll 1D4C4 cn 1D4C5 ll 1D4D0 lu 1D4EA ll 1D504 lu 1D506 cn 1D507 lu 1D50B cn 1D50D lu
  1D515 cn 1D516 lu 1D51D cn 1D51E ll 1D538 lu 1D53A cn 1D53B lu 1D53F cn 1D540 lu 1D545 cn 1D546
  lu 1D547 cn 1D54A lu 1D551 cn 1D552 ll 1D56C lu 1D586 ll 1D5A0 lu 1D5BA ll 1D5D4 lu 1D5EE ll
  1D608 lu 1D622 ll 1D63C lu 1D656 ll 1D670 lu 1D68A ll 1D6A6 cn 1D6A8 lu 1D6C1 sm 1D6C2 ll 1D6DB
  sm 1D6DC ll 1D6E2 lu 1D6FB sm 1D6FC ll 1D715 sm 1D716 ll 1D71C lu 1D735 sm 1D736 ll 1D74F sm
  1D750 ll 1D756 lu 1D76F sm 1D770 ll 1D789 sm 1D78A ll 1D790 lu 1D7A9 sm 1D7AA ll 1D7C3 sm 1D7C4
  ll 1D7CA lu 1D7CB ll 1D7CC cn 1D7CE nd 1D800 so 1DA00 mn 1DA37 so 1DA3B mn 1DA6D so 1DA75 mn
  1DA76 so 1DA84 mn 1DA85 so 1DA87 po 1DA8C cn 1DA9B mn 1DAA0 cn 1DAA1 mn 1DAB0 cn 1DF00 ll 1DF0A
  lo 1DF0B ll 1DF1F cn 1DF25 ll 1DF2B cn 1E000 mn 1E007 cn 1E008 mn 1E019 cn 1E01B mn 1E022 cn
  1E023 mn 1E025 cn 1E026 mn 1E02B cn 1E030 lm 1E06E cn 1E08F mn 1E090 cn 1E100 lo 1E12D cn 1E130
  mn 1E137 lm 1E13E cn 1E140 nd 1E14A cn 1E14E lo 1E14F so 1E150 cn 1E290 lo 1E2AE mn 1E2AF cn
  1E2C0 lo 1E2EC mn 1E2F0 nd 1E2FA cn 1E2FF sc 1E300 cn 1E4D0 lo 1E4EB lm 1E4EC mn 1E4F0 nd 1E4FA
  cn 1E5D0 lo 1E5EE mn 1E5F0 lo 1E5F1 nd 1E5FB cn 1E5FF po 1E600 cn 1E7E0 lo 1E7E7 cn 1E7E8 lo
  1E7EC cn 1E7ED lo 1E7EF cn 1E7F0 lo 1E7FF cn 1E800 lo 1E8C5 cn 1E8C7 no 1E8D0 mn 1E8D7 cn 1E900
  lu 1E922 ll 1E944 mn 1E94B lm 1E94C cn 1E950 nd 1E95A cn 1E95E po 1E960 cn 1EC71 no 1ECAC so
  1ECAD no 1ECB0 sc 1ECB1 no 1ECB5 cn 1ED01 no 1ED2E so 1ED2F no 1ED3E cn 1EE00 lo 1EE04 cn 1EE05
  lo 1EE20 cn 1EE21 lo 1EE23 cn 1EE24 lo 1EE25 cn 1EE27 lo 1EE28 cn 1EE29 lo 1EE33 cn 1EE34 lo
  1EE38 cn 1EE39 lo 1EE3A cn 1EE3B lo 1EE3C cn 1EE42 lo 1EE43 cn 1EE47 lo 1EE48 cn 1EE49 lo 1EE4A
  cn 1EE4B lo 1EE4C cn 1EE4D lo 1EE50 cn 1EE51 lo 1EE53 cn 1EE54 lo 1EE55 cn 1EE57 lo 1EE58 cn
  1EE59 lo 1EE5A cn 1EE5B lo 1EE5C cn 1EE5D lo 1EE5E cn 1EE5F lo 1EE60 cn 1EE61 lo 1EE63 cn 1EE64
  lo 1EE65 cn 1EE67 lo 1EE6B cn 1EE6C lo 1EE73 cn 1EE74 lo 1EE78 cn 1EE79 lo 1EE7D cn 1EE7E lo
  1EE7F cn 1EE80 lo 1EE8A cn 1EE8B lo 1EE9C cn 1EEA1 lo 1EEA4 cn 1EEA5 lo 1EEAA cn 1EEAB lo 1EEBC
  cn 1EEF0 sm 1EEF2 cn 1F000 so 1F02C cn 1F030 so 1F094 cn 1F0A0 so 1F0AF cn 1F0B1 so 1F0C0 cn
  1F0C1 so 1F0D0 cn 1F0D1 so 1F0F6 cn 1F100 no 1F10D so 1F1AE cn 1F1E6 so 1F203 cn 1F210 so 1F23C
  cn 1F240 so 1F249 cn 1F250 so 1F252 cn 1F260 so 1F266 cn 1F300 so 1F3FB sk 1F400 so 1F6D8 cn
  1F6DC so 1F6ED cn 1F6F0 so 1F6FD cn 1F700 so 1F777 cn 1F77B so 1F7DA cn 1F7E0 so 1F7EC cn 1F7F0
  so 1F7F1 cn 1F800 so 1F80C cn 1F810 so 1F848 cn 1F850 so 1F85A cn 1F860 so 1F888 cn 1F890 so
  1F8AE cn 1F8B0 so 1F8BC cn 1F8C0 so 1F8C2 cn 1F900 so 1FA54 cn 1FA60 so 1FA6E cn 1FA70 so 1FA7D
  cn 1FA80 so 1FA8A cn 1FA8F so 1FAC7 cn 1FACE so 1FADD cn 1FADF so 1FAEA cn 1FAF0 so 1FAF9 cn
  1FB00 so 1FB93 cn 1FB94 so 1FBF0 nd 1FBFA cn 20000 lo 2A6E0 cn 2A700 lo 2B73A cn 2B740 lo 2B81E
  cn 2B820 lo 2CEA2 cn 2CEB0 lo 2EBE1 cn 2EBF0 lo 2EE5E cn 2F800 lo 2FA1E cn 30000 lo 3134B cn
  31350 lo 323B0 cn E0001 cf E0002 cn E0020 cf E0080 cn E0100 mn E01F0 cn F0000 co FFFFE cn 100000
  co 10FFFE cn"

/-- The general category of a code point; what is past the last one is unassigned. -/
def categoryOf (c : Nat) : Category :=
  if c < 0x110000 then (categoryRuns.get? c).getD .cn else .cn

/-- Letters of any kind. -/
def isLetter (c : Nat) : Bool := (categoryOf c).group == 'l'

/-- Numbers of any kind. -/
def isNumber (c : Nat) : Bool := (categoryOf c).group == 'n'

def isDecimalDigit (c : Nat) : Bool := categoryOf c == .nd

end BoundedRegex.Unicode
