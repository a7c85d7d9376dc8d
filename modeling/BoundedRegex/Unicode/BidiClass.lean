import BoundedRegex.Unicode.Table

/-!
# Bidirectional classes

How a code point takes part in laying out text that mixes directions.
-/
namespace BoundedRegex.Unicode

/-- The codes of the bidirectional classes, in lower case. -/
def bidiClassCodes : List String :=
  ["al", "an", "b", "bn", "cs", "en", "es", "et", "fsi", "l", "lre", "lri", "lro", "nsm",
   "on", "pdf", "pdi", "r", "rle", "rli", "rlo", "s", "ws"]

def bidiClassRuns : RunMap String :=
  RunMap.ofText id
  "0 bn 9 s A b B s C ws D b E bn 1C b 1F s 20 ws 21 on 23 et 26 on 2B es 2C cs 2D es 2E cs 30 en
  3A cs 3B on 41 l 5B on 61 l 7B on 7F bn 85 b 86 bn A0 cs A1 on A2 et A6 on AA l AB on AD bn AE
  on B0 et B2 en B4 on B5 l B6 on B9 en BA l BB on C0 l D7 on D8 l F7 on F8 l 2B9 on 2BB l 2C2 on
  2D0 l 2D2 on 2E0 l 2E5 on 2EE l 2EF on 300 nsm 370 l 374 on 376 l 37E on 37F l 384 on 386 l 387
  on 388 l 3F6 on 3F7 l 483 nsm 48A l 58A on 58B l 58D on 58F et 590 r 591 nsm 5BE r 5BF nsm 5C0 r
  5C1 nsm 5C3 r 5C4 nsm 5C6 r 5C7 nsm 5C8 r 600 an 606 on 608 al 609 et 60B al 60C cs 60D al 60E
  on 610 nsm 61B al 64B nsm 660 an 66A et 66B an 66D al 670 nsm 671 al 6D6 nsm 6DD an 6DE on 6DF
  nsm 6E5 al 6E7 nsm 6E9 on 6EA nsm 6EE al 6F0 en 6FA al 711 nsm 712 al 730 nsm 74B al 7A6 nsm 7B1
  al 7C0 r 7EB nsm 7F4 r 7F6 on 7FA r 7FD nsm 7FE r 816 nsm 81A r 81B nsm 824 r 825 nsm 828 r 829
  nsm 82E r 859 nsm 85C r 860 al 890 an 892 al 898 nsm 8A0 al 8CA nsm 8E2 an 8E3 nsm 903 l 93A nsm
  93B l 93C nsm 93D l 941 nsm 949 l 94D nsm 94E l 951 nsm 958 l 962 nsm 964 l 981 nsm 982 l 9BC
  nsm 9BD l 9C1 nsm 9C5 l 9CD nsm 9CE l 9E2 nsm 9E4 l 9F2 et 9F4 l 9FB et 9FC l 9FE nsm 9FF l A01
  nsm A03 l A3C nsm A3D l A41 nsm A43 l A47 nsm A49 l A4B nsm A4E l A51 nsm A52 l A70 nsm A72 l
  A75 nsm A76 l A81 nsm A83 l ABC nsm ABD l AC1 nsm AC6 l AC7 nsm AC9 l ACD nsm ACE l AE2 nsm AE4
  l AF1 et AF2 l AFA nsm B00 l B01 nsm B02 l B3C nsm B3D l B3F nsm B40 l B41 nsm B45 l B4D nsm B4E
  l B55 nsm B57 l B62 nsm B64 l B82 nsm B83 l BC0 nsm BC1 l BCD nsm BCE l BF3 on BF9 et BFA on BFB
  l C00 nsm C01 l C04 nsm C05 l C3C nsm C3D l C3E nsm C41 l C46 nsm C49 l C4A nsm C4E l C55 nsm
  C57 l C62 nsm C64 l C78 on C7F l C81 nsm C82 l CBC nsm CBD l CCC nsm CCE l CE2 nsm CE4 l D00 nsm
  D02 l D3B nsm D3D l D41 nsm D45 l D4D nsm D4E l D62 nsm D64 l D81 nsm D82 l DCA nsm DCB l DD2
  nsm DD5 l DD6 nsm DD7 l E31 nsm E32 l E34 nsm E3B l E3F et E40 l E47 nsm E4F l EB1 nsm EB2 l EB4
  nsm EBD l EC8 nsm ECF l F18 nsm F1A l F35 nsm F36 l F37 nsm F38 l F39 nsm F3A on F3E l F71 nsm
  F7F l F80 nsm F85 l F86 nsm F88 l F8D nsm F98 l F99 nsm FBD l FC6 nsm FC7 l 102D nsm 1031 l 1032
  nsm 1038 l 1039 nsm 103B l 103D nsm 103F l 1058 nsm 105A l 105E nsm 1061 l 1071 nsm 1075 l 1082
  nsm 1083 l 1085 nsm 1087 l 108D nsm 108E l 109D nsm 109E l 135D nsm 1360 l 1390 on 139A l 1400
  on 1401 l 1680 ws 1681 l 169B on 169D l 1712 nsm 1715 l 1732 nsm 1734 l 1752 nsm 1754 l 1772 nsm
  1774 l 17B4 nsm 17B6 l 17B7 nsm 17BE l 17C6 nsm 17C7 l 17C9 nsm 17D4 l 17DB et 17DC l 17DD nsm
  17DE l 17F0 on 17FA l 1800 on 180B nsm 180E bn 180F nsm 1810 l 1885 nsm 1887 l 18A9 nsm 18AA l
  1920 nsm 1923 l 1927 nsm 1929 l 1932 nsm 1933 l 1939 nsm 193C l 1940 on 1941 l 1944 on 1946 l
  19DE on 1A00 l 1A17 nsm 1A19 l 1A1B nsm 1A1C l 1A56 nsm 1A57 l 1A58 nsm 1A5F l 1A60 nsm 1A61 l
  1A62 nsm 1A63 l 1A65 nsm 1A6D l 1A73 nsm 1A7D l 1A7F nsm 1A80 l 1AB0 nsm 1ACF l 1B00 nsm 1B04 l
  1B34 nsm 1B35 l 1B36 nsm 1B3B l 1B3C nsm 1B3D l 1B42 nsm 1B43 l 1B6B nsm 1B74 l 1B80 nsm 1B82 l
  1BA2 nsm 1BA6 l 1BA8 nsm 1BAA l 1BAB nsm 1BAE l 1BE6 nsm 1BE7 l 1BE8 nsm 1BEA l 1BED nsm 1BEE l
  1BEF nsm 1BF2 l 1C2C nsm 1C34 l 1C36 nsm 1C38 l 1CD0 nsm 1CD3 l 1CD4 nsm 1CE1 l 1CE2 nsm 1CE9 l
  1CED nsm 1CEE l 1CF4 nsm 1CF5 l 1CF8 nsm 1CFA l 1DC0 nsm 1E00 l 1FBD on 1FBE l 1FBF on 1FC2 l
  1FCD on 1FD0 l 1FDD on 1FE0 l 1FED on 1FF0 l 1FFD on 1FFF l 2000 ws 200B bn 200E l 200F r 2010
  on 2028 ws 2029 b 202A lre 202B rle 202C pdf 202D lro 202E rlo 202F cs 2030 et 2035 on 2044 cs
  2045 on 205F ws 2060 bn 2066 lri 2067 rli 2068 fsi 2069 pdi 206A bn 2070 en 2071 l 2074 en 207A
  es 207C on 207F l 2080 en 208A es 208C on 208F l 20A0 et 20D0 nsm 20F1 l 2100 on 2102 l 2103 on
  2107 l 2108 on 210A l 2114 on 2115 l 2116 on 2119 l 211E on 2124 l 2125 on 2126 l 2127 on 2128 l
  2129 on 212A l 212E et 212F l 213A on 213C l 2140 on 2145 l 214A on 214E l 2150 on 2160 l 2189
  on 218C l 2190 on 2212 es 2213 et 2214 on 2336 l 237B on 2395 l 2396 on 2427 l 2440 on 244B l
  2460 on 2488 en 249C l 24EA on 26AC l 26AD on 2800 l 2900 on 2B74 l 2B76 on 2B96 l 2B97 on 2C00
  l 2CE5 on 2CEB l 2CEF nsm 2CF2 l 2CF9 on 2D00 l 2D7F nsm 2D80 l 2DE0 nsm 2E00 on 2E5E l 2E80 on
  2E9A l 2E9B on 2EF4 l 2F00 on 2FD6 l 2FF0 on 2FFC l 3000 ws 3001 on 3005 l 3008 on 3021 l 302A
  nsm 302E l 3030 on 3031 l 3036 on 3038 l 303D on 3040 l 3099 nsm 309B on 309D l 30A0 on 30A1 l
  30FB on 30FC l 31C0 on 31E4 l 321D on 321F l 3250 on 3260 l 327C on 327F l 32B1 on 32C0 l 32CC
  on 32D0 l 3377 on 337B l 33DE on 33E0 l 33FF on 3400 l 4DC0 on 4E00 l A490 on A4C7 l A60D on
  A610 l A66F nsm A673 on A674 nsm A67E on A680 l A69E nsm A6A0 l A6F0 nsm A6F2 l A700 on A722 l
  A788 on A789 l A802 nsm A803 l A806 nsm A807 l A80B nsm A80C l A825 nsm A827 l A828 on A82C nsm
  A82D l A838 et A83A l A874 on A878 l A8C4 nsm A8C6 l A8E0 nsm A8F2 l A8FF nsm A900 l A926 nsm
  A92E l A947 nsm A952 l A980 nsm A983 l A9B3 nsm A9B4 l A9B6 nsm A9BA l A9BC nsm A9BE l A9E5 nsm
  A9E6 l AA29 nsm AA2F l AA31 nsm AA33 l AA35 nsm AA37 l AA43 nsm AA44 l AA4C nsm AA4D l AA7C nsm
  AA7D l AAB0 nsm AAB1 l AAB2 nsm AAB5 l AAB7 nsm AAB9 l AABE nsm AAC0 l AAC1 nsm AAC2 l AAEC nsm
  AAEE l AAF6 nsm AAF7 l AB6A on AB6C l ABE5 nsm ABE6 l ABE8 nsm ABE9 l ABED nsm ABEE l FB1D r
  FB1E nsm FB1F r FB29 es FB2A r FB50 al FD3E on FD50 al FDCF on FDD0 bn FDF0 al FDFD on FE00 nsm
  FE10 on FE1A l FE20 nsm FE30 on FE50 cs FE51 on FE52 cs FE53 l FE54 on FE55 cs FE56 on FE5F et
  FE60 on FE62 es FE64 on FE67 l FE68 on FE69 et FE6B on FE6C l FE70 al FEFF bn FF00 l FF01 on
  FF03 et FF06 on FF0B es FF0C cs FF0D es FF0E cs FF10 en FF1A cs FF1B on FF21 l FF3B on FF41 l
  FF5B on FF66 l FFE0 et FFE2 on FFE5 et FFE7 l FFE8 on FFEF l FFF0 bn FFF9 on FFFE bn 10000 l
  10101 on 10102 l 10140 on 1018D l 10190 on 1019D l 101A0 on 101A1 l 101FD nsm 101FE l 102E0 nsm
  102E1 en 102FC l 10376 nsm 1037B l 10800 r 1091F on 10920 r 10A01 nsm 10A04 r 10A05 nsm 10A07 r
  10A0C nsm 10A10 r 10A38 nsm 10A3B r 10A3F nsm 10A40 r 10AE5 nsm 10AE7 r 10B39 on 10B40 r 10D00
  al 10D24 nsm 10D28 al 10D30 an 10D3A al 10D40 r 10E60 an 10E7F r 10EAB nsm 10EAD r 10EC0 al
  10EFD nsm 10F00 r 10F30 al 10F46 nsm 10F51 al 10F70 r 10F82 nsm 10F86 r 11000 l 11001 nsm 11002
  l 11038 nsm 11047 l 11052 on 11066 l 11070 nsm 11071 l 11073 nsm 11075 l 1107F nsm 11082 l 110B3
  nsm 110B7 l 110B9 nsm 110BB l 110C2 nsm 110C3 l 11100 nsm 11103 l 11127 nsm 1112C l 1112D nsm
  11135 l 11173 nsm 11174 l 11180 nsm 11182 l 111B6 nsm 111BF l 111C9 nsm 111CD l 111CF nsm 111D0
  l 1122F nsm 11232 l 11234 nsm 11235 l 11236 nsm 11238 l 1123E nsm 1123F l 11241 nsm 11242 l
  112DF nsm 112E0 l 112E3 nsm 112EB l 11300 nsm 11302 l 1133B nsm 1133D l 11340 nsm 11341 l 11366
  nsm 1136D l 11370 nsm 11375 l 11438 nsm 11440 l 11442 nsm 11445 l 11446 nsm 11447 l 1145E nsm
  1145F l 114B3 nsm 114B9 l 114BA nsm 114BB l 114BF nsm 114C1 l 114C2 nsm 114C4 l 115B2 nsm 115B6
  l 115BC nsm 115BE l 115BF nsm 115C1 l 115DC nsm 115DE l 11633 nsm 1163B l 1163D nsm 1163E l
  1163F nsm 11641 l 11660 on 1166D l 116AB nsm 116AC l 116AD nsm 116AE l 116B0 nsm 116B6 l 116B7
  nsm 116B8 l 1171D nsm 11720 l 11722 nsm 11726 l 11727 nsm 1172C l 1182F nsm 11838 l 11839 nsm
  1183B l 1193B nsm 1193D l 1193E nsm 1193F l 11943 nsm 11944 l 119D4 nsm 119D8 l 119DA nsm 119DC
  l 119E0 nsm 119E1 l 11A01 nsm 11A07 l 11A09 nsm 11A0B l 11A33 nsm 11A39 l 11A3B nsm 11A3F l
  11A47 nsm 11A48 l 11A51 nsm 11A57 l 11A59 nsm 11A5C l 11A8A nsm 11A97 l 11A98 nsm 11A9A l 11C30
  nsm 11C37 l 11C38 nsm 11C3E l 11C92 nsm 11CA8 l 11CAA nsm 11CB1 l 11CB2 nsm 11CB4 l 11CB5 nsm
  11CB7 l 11D31 nsm 11D37 l 11D3A nsm 11D3B l 11D3C nsm 11D3E l 11D3F nsm 11D46 l 11D47 nsm 11D48
  l 11D90 nsm 11D92 l 11D95 nsm 11D96 l 11D97 nsm 11D98 l 11EF3 nsm 11EF5 l 11F00 nsm 11F02 l
  11F36 nsm 11F3B l 11F40 nsm 11F41 l 11F42 nsm 11F43 l 11FD5 on 11FDD et 11FE1 on 11FF2 l 13440
  nsm 13441 l 13447 nsm 13456 l 16AF0 nsm 16AF5 l 16B30 nsm 16B37 l 16F4F nsm 16F50 l 16F8F nsm
  16F93 l 16FE2 on 16FE3 l 16FE4 nsm 16FE5 l 1BC9D nsm 1BC9F l 1BCA0 bn 1BCA4 l 1CF00 nsm 1CF2E l
  1CF30 nsm 1CF47 l 1D167 nsm 1D16A l 1D173 bn 1D17B nsm 1D183 l 1D185 nsm 1D18C l 1D1AA nsm 1D1AE
  l 1D1E9 on 1D1EB l 1D200 on 1D242 nsm 1D245 on 1D246 l 1D300 on 1D357 l 1D6DB on 1D6DC l 1D715
  on 1D716 l 1D74F on 1D750 l 1D789 on 1D78A l 1D7C3 on 1D7C4 l 1D7CE en 1D800 l 1DA00 nsm 1DA37 l
  1DA3B nsm 1DA6D l 1DA75 nsm 1DA76 l 1DA84 nsm 1DA85 l 1DA9B nsm 1DAA0 l 1DAA1 nsm 1DAB0 l 1E000
  nsm 1E007 l 1E008 nsm 1E019 l 1E01B nsm 1E022 l 1E023 nsm 1E025 l 1E026 nsm 1E02B l 1E08F nsm
  1E090 l 1E130 nsm 1E137 l 1E2AE nsm 1E2AF l 1E2EC nsm 1E2F0 l 1E2FF et 1E300 l 1E4EC nsm 1E4F0 l
  1E800 r 1E8D0 nsm 1E8D7 r 1E944 nsm 1E94B r 1EC70 al 1ECC0 r 1ED00 al 1ED50 r 1EE00 al 1EEF0 on
  1EEF2 al 1EF00 r 1F000 on 1F02C l 1F030 on 1F094 l 1F0A0 on 1F0AF l 1F0B1 on 1F0C0 l 1F0C1 on
  1F0D0 l 1F0D1 on 1F0F6 l 1F100 en 1F10B on 1F110 l 1F12F on 1F130 l 1F16A on 1F170 l 1F1AD on
  1F1AE l 1F260 on 1F266 l 1F300 on 1F6D8 l 1F6DC on 1F6ED l 1F6F0 on 1F6FD l 1F700 on 1F777 l
  1F77B on 1F7DA l 1F7E0 on 1F7EC l 1F7F0 on 1F7F1 l 1F800 on 1F80C l 1F810 on 1F848 l 1F850 on
  1F85A l 1F860 on 1F888 l 1F890 on 1F8AE l 1F8B0 on 1F8B2 l 1F900 on 1FA54 l 1FA60 on 1FA6E l
  1FA70 on 1FA7D l 1FA80 on 1FA89 l 1FA90 on 1FABE l 1FABF on 1FAC6 l 1FACE on 1FADC l 1FAE0 on
  1FAE9 l 1FAF0 on 1FAF9 l 1FB00 on 1FB93 l 1FB94 on 1FBCB l 1FBF0 en 1FBFA l 1FFFE bn 20000 l
  2FFFE bn 30000 l 3FFFE bn 40000 l 4FFFE bn 50000 l 5FFFE bn 60000 l 6FFFE bn 70000 l 7FFFE bn
  80000 l 8FFFE bn 90000 l 9FFFE bn A0000 l AFFFE bn B0000 l BFFFE bn C0000 l CFFFE bn D0000 l
  DFFFE bn E0100 nsm E01F0 bn E1000 l EFFFE bn F0000 l FFFFE bn 100000 l 10FFFE bn"

/-- The code of a code point's bidirectional class. -/
def bidiClassOf (c : Nat) : String :=
  (bidiClassRuns.get? c).getD "l"

end BoundedRegex.Unicode
