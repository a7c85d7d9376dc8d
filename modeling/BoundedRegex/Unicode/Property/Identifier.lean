import BoundedRegex.Unicode.Table

/-!
# Identifier and pattern properties

Which code points may start or continue an identifier, and which are reserved for patterns.
-/
namespace BoundedRegex.Unicode

/-- The code points with the property `ID Start`. -/
def idStartPoints : PointSet :=
  PointSet.ofText
  "41 5B 61 7B AA AB B5 B6 BA BB C0 D7 D8 F7 F8 2C2 2C6 2D2 2E0 2E5 2EC 2ED 2EE 2EF 370 375 376 378
  37A 37E 37F 380 386 387 388 38B 38C 38D 38E 3A2 3A3 3F6 3F7 482 48A 530 531 557 559 55A 560 589
  5D0 5EB 5EF 5F3 620 64B 66E 670 671 6D4 6D5 6D6 6E5 6E7 6EE 6F0 6FA 6FD 6FF 700 710 711 712 730
  74D 7A6 7B1 7B2 7CA 7EB 7F4 7F6 7FA 7FB 800 816 81A 81B 824 825 828 829 840 859 860 86B 870 888
  889 88F 8A0 8CA 904 93A 93D 93E 950 951 958 962 971 981 985 98D 98F 991 993 9A9 9AA 9B1 9B2 9B3
  9B6 9BA 9BD 9BE 9CE 9CF 9DC 9DE 9DF 9E2 9F0 9F2 9FC 9FD A05 A0B A0F A11 A13 A29 A2A A31 A32 A34
  A35 A37 A38 A3A A59 A5D A5E A5F A72 A75 A85 A8E A8F A92 A93 AA9 AAA AB1 AB2 AB4 AB5 ABA ABD ABE
  AD0 AD1 AE0 AE2 AF9 AFA B05 B0D B0F B11 B13 B29 B2A B31 B32 B34 B35 B3A B3D B3E B5C B5E B5F B62
  B71 B72 B83 B84 B85 B8B B8E B91 B92 B96 B99 B9B B9C B9D B9E BA0 BA3 BA5 BA8 BAB BAE BBA BD0 BD1
  C05 C0D C0E C11 C12 C29 C2A C3A C3D C3E C58 C5B C5D C5E C60 C62 C80 C81 C85 C8D C8E C91 C92 CA9
  CAA CB4 CB5 CBA CBD CBE CDD CDF CE0 CE2 CF1 CF3 D04 D0D D0E D11 D12 D3B D3D D3E D4E D4F D54 D57
  D5F D62 D7A D80 D85 D97 D9A DB2 DB3 DBC DBD DBE DC0 DC7 E01 E31 E32 E34 E40 E47 E81 E83 E84 E85
  E86 E8B E8C EA4 EA5 EA6 EA7 EB1 EB2 EB4 EBD EBE EC0 EC5 EC6 EC7 EDC EE0 F00 F01 F40 F48 F49 F6D
  F88 F8D 1000 102B 103F 1040 1050 1056 105A 105E 1061 1062 1065 1067 106E 1071 1075 1082 108E
  108F 10A0 10C6 10C7 10C8 10CD 10CE 10D0 10FB 10FC 1249 124A 124E 1250 1257 1258 1259 125A 125E
  1260 1289 128A 128E 1290 12B1 12B2 12B6 12B8 12BF 12C0 12C1 12C2 12C6 12C8 12D7 12D8 1311 1312
  1316 1318 135B 1380 1390 13A0 13F6 13F8 13FE 1401 166D 166F 1680 1681 169B 16A0 16EB 16EE 16F9
  1700 1712 171F 1732 1740 1752 1760 176D 176E 1771 1780 17B4 17D7 17D8 17DC 17DD 1820 1879 1880
  18A9 18AA 18AB 18B0 18F6 1900 191F 1950 196E 1970 1975 1980 19AC 19B0 19CA 1A00 1A17 1A20 1A55
  1AA7 1AA8 1B05 1B34 1B45 1B4D 1B83 1BA1 1BAE 1BB0 1BBA 1BE6 1C00 1C24 1C4D 1C50 1C5A 1C7E 1C80
  1C8B 1C90 1CBB 1CBD 1CC0 1CE9 1CED 1CEE 1CF4 1CF5 1CF7 1CFA 1CFB 1D00 1DC0 1E00 1F16 1F18 1F1E
  1F20 1F46 1F48 1F4E 1F50 1F58 1F59 1F5A 1F5B 1F5C 1F5D 1F5E 1F5F 1F7E 1F80 1FB5 1FB6 1FBD 1FBE
  1FBF 1FC2 1FC5 1FC6 1FCD 1FD0 1FD4 1FD6 1FDC 1FE0 1FED 1FF2 1FF5 1FF6 1FFD 2071 2072 207F 2080
  2090 209D 2102 2103 2107 2108 210A 2114 2115 2116 2118 211E 2124 2125 2126 2127 2128 2129 212A
  213A 213C 2140 2145 214A 214E 214F 2160 2189 2C00 2CE5 2CEB 2CEF 2CF2 2CF4 2D00 2D26 2D27 2D28
  2D2D 2D2E 2D30 2D68 2D6F 2D70 2D80 2D97 2DA0 2DA7 2DA8 2DAF 2DB0 2DB7 2DB8 2DBF 2DC0 2DC7 2DC8
  2DCF 2DD0 2DD7 2DD8 2DDF 3005 3008 3021 302A 3031 3036 3038 303D 3041 3097 309B 30A0 30A1 30FB
  30FC 3100 3105 3130 3131 318F 31A0 31C0 31F0 3200 3400 4DC0 4E00 A48D A4D0 A4FE A500 A60D A610
  A620 A62A A62C A640 A66F A67F A69E A6A0 A6F0 A717 A720 A722 A789 A78B A7CE A7D0 A7D2 A7D3 A7D4
  A7D5 A7DD A7F2 A802 A803 A806 A807 A80B A80C A823 A840 A874 A882 A8B4 A8F2 A8F8 A8FB A8FC A8FD
  A8FF A90A A926 A930 A947 A960 A97D A984 A9B3 A9CF A9D0 A9E0 A9E5 A9E6 A9F0 A9FA A9FF AA00 AA29
  AA40 AA43 AA44 AA4C AA60 AA77 AA7A AA7B AA7E AAB0 AAB1 AAB2 AAB5 AAB7 AAB9 AABE AAC0 AAC1 AAC2
  AAC3 AADB AADE AAE0 AAEB AAF2 AAF5 AB01 AB07 AB09 AB0F AB11 AB17 AB20 AB27 AB28 AB2F AB30 AB5B
  AB5C AB6A AB70 ABE3 AC00 D7A4 D7B0 D7C7 D7CB D7FC F900 FA6E FA70 FADA FB00 FB07 FB13 FB18 FB1D
  FB1E FB1F FB29 FB2A FB37 FB38 FB3D FB3E FB3F FB40 FB42 FB43 FB45 FB46 FBB2 FBD3 FD3E FD50 FD90
  FD92 FDC8 FDF0 FDFC FE70 FE75 FE76 FEFD FF21 FF3B FF41 FF5B FF66 FFBF FFC2 FFC8 FFCA FFD0 FFD2
  FFD8 FFDA FFDD 10000 1000C 1000D 10027 10028 1003B 1003C 1003E 1003F 1004E 10050 1005E 10080
  100FB 10140 10175 10280 1029D 102A0 102D1 10300 10320 1032D 1034B 10350 10376 10380 1039E 103A0
  103C4 103C8 103D0 103D1 103D6 10400 1049E 104B0 104D4 104D8 104FC 10500 10528 10530 10564 10570
  1057B 1057C 1058B 1058C 10593 10594 10596 10597 105A2 105A3 105B2 105B3 105BA 105BB 105BD 105C0
  105F4 10600 10737 10740 10756 10760 10768 10780 10786 10787 107B1 107B2 107BB 10800 10806 10808
  10809 1080A 10836 10837 10839 1083C 1083D 1083F 10856 10860 10877 10880 1089F 108E0 108F3 108F4
  108F6 10900 10916 10920 1093A 10980 109B8 109BE 109C0 10A00 10A01 10A10 10A14 10A15 10A18 10A19
  10A36 10A60 10A7D 10A80 10A9D 10AC0 10AC8 10AC9 10AE5 10B00 10B36 10B40 10B56 10B60 10B73 10B80
  10B92 10C00 10C49 10C80 10CB3 10CC0 10CF3 10D00 10D24 10D4A 10D66 10D6F 10D86 10E80 10EAA 10EB0
  10EB2 10EC2 10EC5 10F00 10F1D 10F27 10F28 10F30 10F46 10F70 10F82 10FB0 10FC5 10FE0 10FF7 11003
  11038 11071 11073 11075 11076 11083 110B0 110D0 110E9 11103 11127 11144 11145 11147 11148 11150
  11173 11176 11177 11183 111B3 111C1 111C5 111DA 111DB 111DC 111DD 11200 11212 11213 1122C 1123F
  11241 11280 11287 11288 11289 1128A 1128E 1128F 1129E 1129F 112A9 112B0 112DF 11305 1130D 1130F
  11311 11313 11329 1132A 11331 11332 11334 11335 1133A 1133D 1133E 11350 11351 1135D 11362 11380
  1138A 1138B 1138C 1138E 1138F 11390 113B6 113B7 113B8 113D1 113D2 113D3 113D4 11400 11435 11447
  1144B 1145F 11462 11480 114B0 114C4 114C6 114C7 114C8 11580 115AF 115D8 115DC 11600 11630 11644
  11645 11680 116AB 116B8 116B9 11700 1171B 11740 11747 11800 1182C 118A0 118E0 118FF 11907 11909
  1190A 1190C 11914 11915 11917 11918 11930 1193F 11940 11941 11942 119A0 119A8 119AA 119D1 119E1
  119E2 119E3 119E4 11A00 11A01 11A0B 11A33 11A3A 11A3B 11A50 11A51 11A5C 11A8A 11A9D 11A9E 11AB0
  11AF9 11BC0 11BE1 11C00 11C09 11C0A 11C2F 11C40 11C41 11C72 11C90 11D00 11D07 11D08 11D0A 11D0B
  11D31 11D46 11D47 11D60 11D66 11D67 11D69 11D6A 11D8A 11D98 11D99 11EE0 11EF3 11F02 11F03 11F04
  11F11 11F12 11F34 11FB0 11FB1 12000 1239A 12400 1246F 12480 12544 12F90 12FF1 13000 13430 13441
  13447 13460 143FB 14400 14647 16100 1611E 16800 16A39 16A40 16A5F 16A70 16ABF 16AD0 16AEE 16B00
  16B30 16B40 16B44 16B63 16B78 16B7D 16B90 16D40 16D6D 16E40 16E80 16F00 16F4B 16F50 16F51 16F93
  16FA0 16FE0 16FE2 16FE3 16FE4 17000 187F8 18800 18CD6 18CFF 18D09 1AFF0 1AFF4 1AFF5 1AFFC 1AFFD
  1AFFF 1B000 1B123 1B132 1B133 1B150 1B153 1B155 1B156 1B164 1B168 1B170 1B2FC 1BC00 1BC6B 1BC70
  1BC7D 1BC80 1BC89 1BC90 1BC9A 1D400 1D455 1D456 1D49D 1D49E 1D4A0 1D4A2 1D4A3 1D4A5 1D4A7 1D4A9
  1D4AD 1D4AE 1D4BA 1D4BB 1D4BC 1D4BD 1D4C4 1D4C5 1D506 1D507 1D50B 1D50D 1D515 1D516 1D51D 1D51E
  1D53A 1D53B 1D53F 1D540 1D545 1D546 1D547 1D54A 1D551 1D552 1D6A6 1D6A8 1D6C1 1D6C2 1D6DB 1D6DC
  1D6FB 1D6FC 1D715 1D716 1D735 1D736 1D74F 1D750 1D76F 1D770 1D789 1D78A 1D7A9 1D7AA 1D7C3 1D7C4
  1D7CC 1DF00 1DF1F 1DF25 1DF2B 1E030 1E06E 1E100 1E12D 1E137 1E13E 1E14E 1E14F 1E290 1E2AE 1E2C0
  1E2EC 1E4D0 1E4EC 1E5D0 1E5EE 1E5F0 1E5F1 1E7E0 1E7E7 1E7E8 1E7EC 1E7ED 1E7EF 1E7F0 1E7FF 1E800
  1E8C5 1E900 1E944 1E94B 1E94C 1EE00 1EE04 1EE05 1EE20 1EE21 1EE23 1EE24 1EE25 1EE27 1EE28 1EE29
  1EE33 1EE34 1EE38 1EE39 1EE3A 1EE3B 1EE3C 1EE42 1EE43 1EE47 1EE48 1EE49 1EE4A 1EE4B 1EE4C 1EE4D
  1EE50 1EE51 1EE53 1EE54 1EE55 1EE57 1EE58 1EE59 1EE5A 1EE5B 1EE5C 1EE5D 1EE5E 1EE5F 1EE60 1EE61
  1EE63 1EE64 1EE65 1EE67 1EE6B 1EE6C 1EE73 1EE74 1EE78 1EE79 1EE7D 1EE7E 1EE7F 1EE80 1EE8A 1EE8B
  1EE9C 1EEA1 1EEA4 1EEA5 1EEAA 1EEAB 1EEBC 20000 2A6E0 2A700 2B73A 2B740 2B81E 2B820 2CEA2 2CEB0
  2EBE1 2EBF0 2EE5E 2F800 2FA1E 30000 3134B 31350 323B0"

/-- The code points with the property `ID Continue`. -/
def idContinuePoints : PointSet :=
  PointSet.ofText
  "30 3A 41 5B 5F 60 61 7B AA AB B5 B6 B7 B8 BA BB C0 D7 D8 F7 F8 2C2 2C6 2D2 2E0 2E5 2EC 2ED 2EE
  2EF 300 375 376 378 37A 37E 37F 380 386 38B 38C 38D 38E 3A2 3A3 3F6 3F7 482 483 488 48A 530 531
  557 559 55A 560 589 591 5BE 5BF 5C0 5C1 5C3 5C4 5C6 5C7 5C8 5D0 5EB 5EF 5F3 610 61B 620 66A 66E
  6D4 6D5 6DD 6DF 6E9 6EA 6FD 6FF 700 710 74B 74D 7B2 7C0 7F6 7FA 7FB 7FD 7FE 800 82E 840 85C 860
  86B 870 888 889 88F 897 8E2 8E3 964 966 970 971 984 985 98D 98F 991 993 9A9 9AA 9B1 9B2 9B3 9B6
  9BA 9BC 9C5 9C7 9C9 9CB 9CF 9D7 9D8 9DC 9DE 9DF 9E4 9E6 9F2 9FC 9FD 9FE 9FF A01 A04 A05 A0B A0F
  A11 A13 A29 A2A A31 A32 A34 A35 A37 A38 A3A A3C A3D A3E A43 A47 A49 A4B A4E A51 A52 A59 A5D A5E
  A5F A66 A76 A81 A84 A85 A8E A8F A92 A93 AA9 AAA AB1 AB2 AB4 AB5 ABA ABC AC6 AC7 ACA ACB ACE AD0
  AD1 AE0 AE4 AE6 AF0 AF9 B00 B01 B04 B05 B0D B0F B11 B13 B29 B2A B31 B32 B34 B35 B3A B3C B45 B47
  B49 B4B B4E B55 B58 B5C B5E B5F B64 B66 B70 B71 B72 B82 B84 B85 B8B B8E B91 B92 B96 B99 B9B B9C
  B9D B9E BA0 BA3 BA5 BA8 BAB BAE BBA BBE BC3 BC6 BC9 BCA BCE BD0 BD1 BD7 BD8 BE6 BF0 C00 C0D C0E
  C11 C12 C29 C2A C3A C3C C45 C46 C49 C4A C4E C55 C57 C58 C5B C5D C5E C60 C64 C66 C70 C80 C84 C85
  C8D C8E C91 C92 CA9 CAA CB4 CB5 CBA CBC CC5 CC6 CC9 CCA CCE CD5 CD7 CDD CDF CE0 CE4 CE6 CF0 CF1
  CF4 D00 D0D D0E D11 D12 D45 D46 D49 D4A D4F D54 D58 D5F D64 D66 D70 D7A D80 D81 D84 D85 D97 D9A
  DB2 DB3 DBC DBD DBE DC0 DC7 DCA DCB DCF DD5 DD6 DD7 DD8 DE0 DE6 DF0 DF2 DF4 E01 E3B E40 E4F E50
  E5A E81 E83 E84 E85 E86 E8B E8C EA4 EA5 EA6 EA7 EBE EC0 EC5 EC6 EC7 EC8 ECF ED0 EDA EDC EE0 F00
  F01 F18 F1A F20 F2A F35 F36 F37 F38 F39 F3A F3E F48 F49 F6D F71 F85 F86 F98 F99 FBD FC6 FC7 1000
  104A 1050 109E 10A0 10C6 10C7 10C8 10CD 10CE 10D0 10FB 10FC 1249 124A 124E 1250 1257 1258 1259
  125A 125E 1260 1289 128A 128E 1290 12B1 12B2 12B6 12B8 12BF 12C0 12C1 12C2 12C6 12C8 12D7 12D8
  1311 1312 1316 1318 135B 135D 1360 1369 1372 1380 1390 13A0 13F6 13F8 13FE 1401 166D 166F 1680
  1681 169B 16A0 16EB 16EE 16F9 1700 1716 171F 1735 1740 1754 1760 176D 176E 1771 1772 1774 1780
  17D4 17D7 17D8 17DC 17DE 17E0 17EA 180B 180E 180F 181A 1820 1879 1880 18AB 18B0 18F6 1900 191F
  1920 192C 1930 193C 1946 196E 1970 1975 1980 19AC 19B0 19CA 19D0 19DB 1A00 1A1C 1A20 1A5F 1A60
  1A7D 1A7F 1A8A 1A90 1A9A 1AA7 1AA8 1AB0 1ABE 1ABF 1ACF 1B00 1B4D 1B50 1B5A 1B6B 1B74 1B80 1BF4
  1C00 1C38 1C40 1C4A 1C4D 1C7E 1C80 1C8B 1C90 1CBB 1CBD 1CC0 1CD0 1CD3 1CD4 1CFB 1D00 1F16 1F18
  1F1E 1F20 1F46 1F48 1F4E 1F50 1F58 1F59 1F5A 1F5B 1F5C 1F5D 1F5E 1F5F 1F7E 1F80 1FB5 1FB6 1FBD
  1FBE 1FBF 1FC2 1FC5 1FC6 1FCD 1FD0 1FD4 1FD6 1FDC 1FE0 1FED 1FF2 1FF5 1FF6 1FFD 203F 2041 2054
  2055 2071 2072 207F 2080 2090 209D 20D0 20DD 20E1 20E2 20E5 20F1 2102 2103 2107 2108 210A 2114
  2115 2116 2118 211E 2124 2125 2126 2127 2128 2129 212A 213A 213C 2140 2145 214A 214E 214F 2160
  2189 2C00 2CE5 2CEB 2CF4 2D00 2D26 2D27 2D28 2D2D 2D2E 2D30 2D68 2D6F 2D70 2D7F 2D97 2DA0 2DA7
  2DA8 2DAF 2DB0 2DB7 2DB8 2DBF 2DC0 2DC7 2DC8 2DCF 2DD0 2DD7 2DD8 2DDF 2DE0 2E00 3005 3008 3021
  3030 3031 3036 3038 303D 3041 3097 3099 30A0 30A1 30FB 30FC 3100 3105 3130 3131 318F 31A0 31C0
  31F0 3200 3400 4DC0 4E00 A48D A4D0 A4FE A500 A60D A610 A62C A640 A670 A674 A67E A67F A6F2 A717
  A720 A722 A789 A78B A7CE A7D0 A7D2 A7D3 A7D4 A7D5 A7DD A7F2 A828 A82C A82D A840 A874 A880 A8C6
  A8D0 A8DA A8E0 A8F8 A8FB A8FC A8FD A92E A930 A954 A960 A97D A980 A9C1 A9CF A9DA A9E0 A9FF AA00
  AA37 AA40 AA4E AA50 AA5A AA60 AA77 AA7A AAC3 AADB AADE AAE0 AAF0 AAF2 AAF7 AB01 AB07 AB09 AB0F
  AB11 AB17 AB20 AB27 AB28 AB2F AB30 AB5B AB5C AB6A AB70 ABEB ABEC ABEE ABF0 ABFA AC00 D7A4 D7B0
  D7C7 D7CB D7FC F900 FA6E FA70 FADA FB00 FB07 FB13 FB18 FB1D FB29 FB2A FB37 FB38 FB3D FB3E FB3F
  FB40 FB42 FB43 FB45 FB46 FBB2 FBD3 FD3E FD50 FD90 FD92 FDC8 FDF0 FDFC FE00 FE10 FE20 FE30 FE33
  FE35 FE4D FE50 FE70 FE75 FE76 FEFD FF10 FF1A FF21 FF3B FF3F FF40 FF41 FF5B FF66 FFBF FFC2 FFC8
  FFCA FFD0 FFD2 FFD8 FFDA FFDD 10000 1000C 1000D 10027 10028 1003B 1003C 1003E 1003F 1004E 10050
  1005E 10080 100FB 10140 10175 101FD 101FE 10280 1029D 102A0 102D1 102E0 102E1 10300 10320 1032D
  1034B 10350 1037B 10380 1039E 103A0 103C4 103C8 103D0 103D1 103D6 10400 1049E 104A0 104AA 104B0
  104D4 104D8 104FC 10500 10528 10530 10564 10570 1057B 1057C 1058B 1058C 10593 10594 10596 10597
  105A2 105A3 105B2 105B3 105BA 105BB 105BD 105C0 105F4 10600 10737 10740 10756 10760 10768 10780
  10786 10787 107B1 107B2 107BB 10800 10806 10808 10809 1080A 10836 10837 10839 1083C 1083D 1083F
  10856 10860 10877 10880 1089F 108E0 108F3 108F4 108F6 10900 10916 10920 1093A 10980 109B8 109BE
  109C0 10A00 10A04 10A05 10A07 10A0C 10A14 10A15 10A18 10A19 10A36 10A38 10A3B 10A3F 10A40 10A60
  10A7D 10A80 10A9D 10AC0 10AC8 10AC9 10AE7 10B00 10B36 10B40 10B56 10B60 10B73 10B80 10B92 10C00
  10C49 10C80 10CB3 10CC0 10CF3 10D00 10D28 10D30 10D3A 10D40 10D66 10D69 10D6E 10D6F 10D86 10E80
  10EAA 10EAB 10EAD 10EB0 10EB2 10EC2 10EC5 10EFC 10F1D 10F27 10F28 10F30 10F51 10F70 10F86 10FB0
  10FC5 10FE0 10FF7 11000 11047 11066 11076 1107F 110BB 110C2 110C3 110D0 110E9 110F0 110FA 11100
  11135 11136 11140 11144 11148 11150 11174 11176 11177 11180 111C5 111C9 111CD 111CE 111DB 111DC
  111DD 11200 11212 11213 11238 1123E 11242 11280 11287 11288 11289 1128A 1128E 1128F 1129E 1129F
  112A9 112B0 112EB 112F0 112FA 11300 11304 11305 1130D 1130F 11311 11313 11329 1132A 11331 11332
  11334 11335 1133A 1133B 11345 11347 11349 1134B 1134E 11350 11351 11357 11358 1135D 11364 11366
  1136D 11370 11375 11380 1138A 1138B 1138C 1138E 1138F 11390 113B6 113B7 113C1 113C2 113C3 113C5
  113C6 113C7 113CB 113CC 113D4 113E1 113E3 11400 1144B 11450 1145A 1145E 11462 11480 114C6 114C7
  114C8 114D0 114DA 11580 115B6 115B8 115C1 115D8 115DE 11600 11641 11644 11645 11650 1165A 11680
  116B9 116C0 116CA 116D0 116E4 11700 1171B 1171D 1172C 11730 1173A 11740 11747 11800 1183B 118A0
  118EA 118FF 11907 11909 1190A 1190C 11914 11915 11917 11918 11936 11937 11939 1193B 11944 11950
  1195A 119A0 119A8 119AA 119D8 119DA 119E2 119E3 119E5 11A00 11A3F 11A47 11A48 11A50 11A9A 11A9D
  11A9E 11AB0 11AF9 11BC0 11BE1 11BF0 11BFA 11C00 11C09 11C0A 11C37 11C38 11C41 11C50 11C5A 11C72
  11C90 11C92 11CA8 11CA9 11CB7 11D00 11D07 11D08 11D0A 11D0B 11D37 11D3A 11D3B 11D3C 11D3E 11D3F
  11D48 11D50 11D5A 11D60 11D66 11D67 11D69 11D6A 11D8F 11D90 11D92 11D93 11D99 11DA0 11DAA 11EE0
  11EF7 11F00 11F11 11F12 11F3B 11F3E 11F43 11F50 11F5B 11FB0 11FB1 12000 1239A 12400 1246F 12480
  12544 12F90 12FF1 13000 13430 13440 13456 13460 143FB 14400 14647 16100 1613A 16800 16A39 16A40
  16A5F 16A60 16A6A 16A70 16ABF 16AC0 16ACA 16AD0 16AEE 16AF0 16AF5 16B00 16B37 16B40 16B44 16B50
  16B5A 16B63 16B78 16B7D 16B90 16D40 16D6D 16D70 16D7A 16E40 16E80 16F00 16F4B 16F4F 16F88 16F8F
  16FA0 16FE0 16FE2 16FE3 16FE5 16FF0 16FF2 17000 187F8 18800 18CD6 18CFF 18D09 1AFF0 1AFF4 1AFF5
  1AFFC 1AFFD 1AFFF 1B000 1B123 1B132 1B133 1B150 1B153 1B155 1B156 1B164 1B168 1B170 1B2FC 1BC00
  1BC6B 1BC70 1BC7D 1BC80 1BC89 1BC90 1BC9A 1BC9D 1BC9F 1CCF0 1CCFA 1CF00 1CF2E 1CF30 1CF47 1D165
  1D16A 1D16D 1D173 1D17B 1D183 1D185 1D18C 1D1AA 1D1AE 1D242 1D245 1D400 1D455 1D456 1D49D 1D49E
  1D4A0 1D4A2 1D4A3 1D4A5 1D4A7 1D4A9 1D4AD 1D4AE 1D4BA 1D4BB 1D4BC 1D4BD 1D4C4 1D4C5 1D506 1D507
  1D50B 1D50D 1D515 1D516 1D51D 1D51E 1D53A 1D53B 1D53F 1D540 1D545 1D546 1D547 1D54A 1D551 1D552
  1D6A6 1D6A8 1D6C1 1D6C2 1D6DB 1D6DC 1D6FB 1D6FC 1D715 1D716 1D735 1D736 1D74F 1D750 1D76F 1D770
  1D789 1D78A 1D7A9 1D7AA 1D7C3 1D7C4 1D7CC 1D7CE 1D800 1DA00 1DA37 1DA3B 1DA6D 1DA75 1DA76 1DA84
  1DA85 1DA9B 1DAA0 1DAA1 1DAB0 1DF00 1DF1F 1DF25 1DF2B 1E000 1E007 1E008 1E019 1E01B 1E022 1E023
  1E025 1E026 1E02B 1E030 1E06E 1E08F 1E090 1E100 1E12D 1E130 1E13E 1E140 1E14A 1E14E 1E14F 1E290
  1E2AF 1E2C0 1E2FA 1E4D0 1E4FA 1E5D0 1E5FB 1E7E0 1E7E7 1E7E8 1E7EC 1E7ED 1E7EF 1E7F0 1E7FF 1E800
  1E8C5 1E8D0 1E8D7 1E900 1E94C 1E950 1E95A 1EE00 1EE04 1EE05 1EE20 1EE21 1EE23 1EE24 1EE25 1EE27
  1EE28 1EE29 1EE33 1EE34 1EE38 1EE39 1EE3A 1EE3B 1EE3C 1EE42 1EE43 1EE47 1EE48 1EE49 1EE4A 1EE4B
  1EE4C 1EE4D 1EE50 1EE51 1EE53 1EE54 1EE55 1EE57 1EE58 1EE59 1EE5A 1EE5B 1EE5C 1EE5D 1EE5E 1EE5F
  1EE60 1EE61 1EE63 1EE64 1EE65 1EE67 1EE6B 1EE6C 1EE73 1EE74 1EE78 1EE79 1EE7D 1EE7E 1EE7F 1EE80
  1EE8A 1EE8B 1EE9C 1EEA1 1EEA4 1EEA5 1EEAA 1EEAB 1EEBC 1FBF0 1FBFA 20000 2A6E0 2A700 2B73A 2B740
  2B81E 2B820 2CEA2 2CEB0 2EBE1 2EBF0 2EE5E 2F800 2FA1E 30000 3134B 31350 323B0 E0100 E01F0"

/-- The code points with the property `XID Start`. -/
def xidStartPoints : PointSet :=
  PointSet.ofText
  "41 5B 61 7B AA AB B5 B6 BA BB C0 D7 D8 F7 F8 2C2 2C6 2D2 2E0 2E5 2EC 2ED 2EE 2EF 370 375 376 378
  37B 37E 37F 380 386 387 388 38B 38C 38D 38E 3A2 3A3 3F6 3F7 482 48A 530 531 557 559 55A 560 589
  5D0 5EB 5EF 5F3 620 64B 66E 670 671 6D4 6D5 6D6 6E5 6E7 6EE 6F0 6FA 6FD 6FF 700 710 711 712 730
  74D 7A6 7B1 7B2 7CA 7EB 7F4 7F6 7FA 7FB 800 816 81A 81B 824 825 828 829 840 859 860 86B 870 888
  889 88F 8A0 8CA 904 93A 93D 93E 950 951 958 962 971 981 985 98D 98F 991 993 9A9 9AA 9B1 9B2 9B3
  9B6 9BA 9BD 9BE 9CE 9CF 9DC 9DE 9DF 9E2 9F0 9F2 9FC 9FD A05 A0B A0F A11 A13 A29 A2A A31 A32 A34
  A35 A37 A38 A3A A59 A5D A5E A5F A72 A75 A85 A8E A8F A92 A93 AA9 AAA AB1 AB2 AB4 AB5 ABA ABD ABE
  AD0 AD1 AE0 AE2 AF9 AFA B05 B0D B0F B11 B13 B29 B2A B31 B32 B34 B35 B3A B3D B3E B5C B5E B5F B62
  B71 B72 B83 B84 B85 B8B B8E B91 B92 B96 B99 B9B B9C B9D B9E BA0 BA3 BA5 BA8 BAB BAE BBA BD0 BD1
  C05 C0D C0E C11 C12 C29 C2A C3A C3D C3E C58 C5B C5D C5E C60 C62 C80 C81 C85 C8D C8E C91 C92 CA9
  CAA CB4 CB5 CBA CBD CBE CDD CDF CE0 CE2 CF1 CF3 D04 D0D D0E D11 D12 D3B D3D D3E D4E D4F D54 D57
  D5F D62 D7A D80 D85 D97 D9A DB2 DB3 DBC DBD DBE DC0 DC7 E01 E31 E32 E33 E40 E47 E81 E83 E84 E85
  E86 E8B E8C EA4 EA5 EA6 EA7 EB1 EB2 EB3 EBD EBE EC0 EC5 EC6 EC7 EDC EE0 F00 F01 F40 F48 F49 F6D
  F88 F8D 1000 102B 103F 1040 1050 1056 105A 105E 1061 1062 1065 1067 106E 1071 1075 1082 108E
  108F 10A0 10C6 10C7 10C8 10CD 10CE 10D0 10FB 10FC 1249 124A 124E 1250 1257 1258 1259 125A 125E
  1260 1289 128A 128E 1290 12B1 12B2 12B6 12B8 12BF 12C0 12C1 12C2 12C6 12C8 12D7 12D8 1311 1312
  1316 1318 135B 1380 1390 13A0 13F6 13F8 13FE 1401 166D 166F 1680 1681 169B 16A0 16EB 16EE 16F9
  1700 1712 171F 1732 1740 1752 1760 176D 176E 1771 1780 17B4 17D7 17D8 17DC 17DD 1820 1879 1880
  18A9 18AA 18AB 18B0 18F6 1900 191F 1950 196E 1970 1975 1980 19AC 19B0 19CA 1A00 1A17 1A20 1A55
  1AA7 1AA8 1B05 1B34 1B45 1B4D 1B83 1BA1 1BAE 1BB0 1BBA 1BE6 1C00 1C24 1C4D 1C50 1C5A 1C7E 1C80
  1C8B 1C90 1CBB 1CBD 1CC0 1CE9 1CED 1CEE 1CF4 1CF5 1CF7 1CFA 1CFB 1D00 1DC0 1E00 1F16 1F18 1F1E
  1F20 1F46 1F48 1F4E 1F50 1F58 1F59 1F5A 1F5B 1F5C 1F5D 1F5E 1F5F 1F7E 1F80 1FB5 1FB6 1FBD 1FBE
  1FBF 1FC2 1FC5 1FC6 1FCD 1FD0 1FD4 1FD6 1FDC 1FE0 1FED 1FF2 1FF5 1FF6 1FFD 2071 2072 207F 2080
  2090 209D 2102 2103 2107 2108 210A 2114 2115 2116 2118 211E 2124 2125 2126 2127 2128 2129 212A
  213A 213C 2140 2145 214A 214E 214F 2160 2189 2C00 2CE5 2CEB 2CEF 2CF2 2CF4 2D00 2D26 2D27 2D28
  2D2D 2D2E 2D30 2D68 2D6F 2D70 2D80 2D97 2DA0 2DA7 2DA8 2DAF 2DB0 2DB7 2DB8 2DBF 2DC0 2DC7 2DC8
  2DCF 2DD0 2DD7 2DD8 2DDF 3005 3008 3021 302A 3031 3036 3038 303D 3041 3097 309D 30A0 30A1 30FB
  30FC 3100 3105 3130 3131 318F 31A0 31C0 31F0 3200 3400 4DC0 4E00 A48D A4D0 A4FE A500 A60D A610
  A620 A62A A62C A640 A66F A67F A69E A6A0 A6F0 A717 A720 A722 A789 A78B A7CE A7D0 A7D2 A7D3 A7D4
  A7D5 A7DD A7F2 A802 A803 A806 A807 A80B A80C A823 A840 A874 A882 A8B4 A8F2 A8F8 A8FB A8FC A8FD
  A8FF A90A A926 A930 A947 A960 A97D A984 A9B3 A9CF A9D0 A9E0 A9E5 A9E6 A9F0 A9FA A9FF AA00 AA29
  AA40 AA43 AA44 AA4C AA60 AA77 AA7A AA7B AA7E AAB0 AAB1 AAB2 AAB5 AAB7 AAB9 AABE AAC0 AAC1 AAC2
  AAC3 AADB AADE AAE0 AAEB AAF2 AAF5 AB01 AB07 AB09 AB0F AB11 AB17 AB20 AB27 AB28 AB2F AB30 AB5B
  AB5C AB6A AB70 ABE3 AC00 D7A4 D7B0 D7C7 D7CB D7FC F900 FA6E FA70 FADA FB00 FB07 FB13 FB18 FB1D
  FB1E FB1F FB29 FB2A FB37 FB38 FB3D FB3E FB3F FB40 FB42 FB43 FB45 FB46 FBB2 FBD3 FC5E FC64 FD3E
  FD50 FD90 FD92 FDC8 FDF0 FDFA FE71 FE72 FE73 FE74 FE77 FE78 FE79 FE7A FE7B FE7C FE7D FE7E FE7F
  FEFD FF21 FF3B FF41 FF5B FF66 FF9E FFA0 FFBF FFC2 FFC8 FFCA FFD0 FFD2 FFD8 FFDA FFDD 10000 1000C
  1000D 10027 10028 1003B 1003C 1003E 1003F 1004E 10050 1005E 10080 100FB 10140 10175 10280 1029D
  102A0 102D1 10300 10320 1032D 1034B 10350 10376 10380 1039E 103A0 103C4 103C8 103D0 103D1 103D6
  10400 1049E 104B0 104D4 104D8 104FC 10500 10528 10530 10564 10570 1057B 1057C 1058B 1058C 10593
  10594 10596 10597 105A2 105A3 105B2 105B3 105BA 105BB 105BD 105C0 105F4 10600 10737 10740 10756
  10760 10768 10780 10786 10787 107B1 107B2 107BB 10800 10806 10808 10809 1080A 10836 10837 10839
  1083C 1083D 1083F 10856 10860 10877 10880 1089F 108E0 108F3 108F4 108F6 10900 10916 10920 1093A
  10980 109B8 109BE 109C0 10A00 10A01 10A10 10A14 10A15 10A18 10A19 10A36 10A60 10A7D 10A80 10A9D
  10AC0 10AC8 10AC9 10AE5 10B00 10B36 10B40 10B56 10B60 10B73 10B80 10B92 10C00 10C49 10C80 10CB3
  10CC0 10CF3 10D00 10D24 10D4A 10D66 10D6F 10D86 10E80 10EAA 10EB0 10EB2 10EC2 10EC5 10F00 10F1D
  10F27 10F28 10F30 10F46 10F70 10F82 10FB0 10FC5 10FE0 10FF7 11003 11038 11071 11073 11075 11076
  11083 110B0 110D0 110E9 11103 11127 11144 11145 11147 11148 11150 11173 11176 11177 11183 111B3
  111C1 111C5 111DA 111DB 111DC 111DD 11200 11212 11213 1122C 1123F 11241 11280 11287 11288 11289
  1128A 1128E 1128F 1129E 1129F 112A9 112B0 112DF 11305 1130D 1130F 11311 11313 11329 1132A 11331
  11332 11334 11335 1133A 1133D 1133E 11350 11351 1135D 11362 11380 1138A 1138B 1138C 1138E 1138F
  11390 113B6 113B7 113B8 113D1 113D2 113D3 113D4 11400 11435 11447 1144B 1145F 11462 11480 114B0
  114C4 114C6 114C7 114C8 11580 115AF 115D8 115DC 11600 11630 11644 11645 11680 116AB 116B8 116B9
  11700 1171B 11740 11747 11800 1182C 118A0 118E0 118FF 11907 11909 1190A 1190C 11914 11915 11917
  11918 11930 1193F 11940 11941 11942 119A0 119A8 119AA 119D1 119E1 119E2 119E3 119E4 11A00 11A01
  11A0B 11A33 11A3A 11A3B 11A50 11A51 11A5C 11A8A 11A9D 11A9E 11AB0 11AF9 11BC0 11BE1 11C00 11C09
  11C0A 11C2F 11C40 11C41 11C72 11C90 11D00 11D07 11D08 11D0A 11D0B 11D31 11D46 11D47 11D60 11D66
  11D67 11D69 11D6A 11D8A 11D98 11D99 11EE0 11EF3 11F02 11F03 11F04 11F11 11F12 11F34 11FB0 11FB1
  12000 1239A 12400 1246F 12480 12544 12F90 12FF1 13000 13430 13441 13447 13460 143FB 14400 14647
  16100 1611E 16800 16A39 16A40 16A5F 16A70 16ABF 16AD0 16AEE 16B00 16B30 16B40 16B44 16B63 16B78
  16B7D 16B90 16D40 16D6D 16E40 16E80 16F00 16F4B 16F50 16F51 16F93 16FA0 16FE0 16FE2 16FE3 16FE4
  17000 187F8 18800 18CD6 18CFF 18D09 1AFF0 1AFF4 1AFF5 1AFFC 1AFFD 1AFFF 1B000 1B123 1B132 1B133
  1B150 1B153 1B155 1B156 1B164 1B168 1B170 1B2FC 1BC00 1BC6B 1BC70 1BC7D 1BC80 1BC89 1BC90 1BC9A
  1D400 1D455 1D456 1D49D 1D49E 1D4A0 1D4A2 1D4A3 1D4A5 1D4A7 1D4A9 1D4AD 1D4AE 1D4BA 1D4BB 1D4BC
  1D4BD 1D4C4 1D4C5 1D506 1D507 1D50B 1D50D 1D515 1D516 1D51D 1D51E 1D53A 1D53B 1D53F 1D540 1D545
  1D546 1D547 1D54A 1D551 1D552 1D6A6 1D6A8 1D6C1 1D6C2 1D6DB 1D6DC 1D6FB 1D6FC 1D715 1D716 1D735
  1D736 1D74F 1D750 1D76F 1D770 1D789 1D78A 1D7A9 1D7AA 1D7C3 1D7C4 1D7CC 1DF00 1DF1F 1DF25 1DF2B
  1E030 1E06E 1E100 1E12D 1E137 1E13E 1E14E 1E14F 1E290 1E2AE 1E2C0 1E2EC 1E4D0 1E4EC 1E5D0 1E5EE
  1E5F0 1E5F1 1E7E0 1E7E7 1E7E8 1E7EC 1E7ED 1E7EF 1E7F0 1E7FF 1E800 1E8C5 1E900 1E944 1E94B 1E94C
  1EE00 1EE04 1EE05 1EE20 1EE21 1EE23 1EE24 1EE25 1EE27 1EE28 1EE29 1EE33 1EE34 1EE38 1EE39 1EE3A
  1EE3B 1EE3C 1EE42 1EE43 1EE47 1EE48 1EE49 1EE4A 1EE4B 1EE4C 1EE4D 1EE50 1EE51 1EE53 1EE54 1EE55
  1EE57 1EE58 1EE59 1EE5A 1EE5B 1EE5C 1EE5D 1EE5E 1EE5F 1EE60 1EE61 1EE63 1EE64 1EE65 1EE67 1EE6B
  1EE6C 1EE73 1EE74 1EE78 1EE79 1EE7D 1EE7E 1EE7F 1EE80 1EE8A 1EE8B 1EE9C 1EEA1 1EEA4 1EEA5 1EEAA
  1EEAB 1EEBC 20000 2A6E0 2A700 2B73A 2B740 2B81E 2B820 2CEA2 2CEB0 2EBE1 2EBF0 2EE5E 2F800 2FA1E
  30000 3134B 31350 323B0"

/-- The code points with the property `XID Continue`. -/
def xidContinuePoints : PointSet :=
  PointSet.ofText
  "30 3A 41 5B 5F 60 61 7B AA AB B5 B6 B7 B8 BA BB C0 D7 D8 F7 F8 2C2 2C6 2D2 2E0 2E5 2EC 2ED 2EE
  2EF 300 375 376 378 37B 37E 37F 380 386 38B 38C 38D 38E 3A2 3A3 3F6 3F7 482 483 488 48A 530 531
  557 559 55A 560 589 591 5BE 5BF 5C0 5C1 5C3 5C4 5C6 5C7 5C8 5D0 5EB 5EF 5F3 610 61B 620 66A 66E
  6D4 6D5 6DD 6DF 6E9 6EA 6FD 6FF 700 710 74B 74D 7B2 7C0 7F6 7FA 7FB 7FD 7FE 800 82E 840 85C 860
  86B 870 888 889 88F 897 8E2 8E3 964 966 970 971 984 985 98D 98F 991 993 9A9 9AA 9B1 9B2 9B3 9B6
  9BA 9BC 9C5 9C7 9C9 9CB 9CF 9D7 9D8 9DC 9DE 9DF 9E4 9E6 9F2 9FC 9FD 9FE 9FF A01 A04 A05 A0B A0F
  A11 A13 A29 A2A A31 A32 A34 A35 A37 A38 A3A A3C A3D A3E A43 A47 A49 A4B A4E A51 A52 A59 A5D A5E
  A5F A66 A76 A81 A84 A85 A8E A8F A92 A93 AA9 AAA AB1 AB2 AB4 AB5 ABA ABC AC6 AC7 ACA ACB ACE AD0
  AD1 AE0 AE4 AE6 AF0 AF9 B00 B01 B04 B05 B0D B0F B11 B13 B29 B2A B31 B32 B34 B35 B3A B3C B45 B47
  B49 B4B B4E B55 B58 B5C B5E B5F B64 B66 B70 B71 B72 B82 B84 B85 B8B B8E B91 B92 B96 B99 B9B B9C
  B9D B9E BA0 BA3 BA5 BA8 BAB BAE BBA BBE BC3 BC6 BC9 BCA BCE BD0 BD1 BD7 BD8 BE6 BF0 C00 C0D C0E
  C11 C12 C29 C2A C3A C3C C45 C46 C49 C4A C4E C55 C57 C58 C5B C5D C5E C60 C64 C66 C70 C80 C84 C85
  C8D C8E C91 C92 CA9 CAA CB4 CB5 CBA CBC CC5 CC6 CC9 CCA CCE CD5 CD7 CDD CDF CE0 CE4 CE6 CF0 CF1
  CF4 D00 D0D D0E D11 D12 D45 D46 D49 D4A D4F D54 D58 D5F D64 D66 D70 D7A D80 D81 D84 D85 D97 D9A
  DB2 DB3 DBC DBD DBE DC0 DC7 DCA DCB DCF DD5 DD6 DD7 DD8 DE0 DE6 DF0 DF2 DF4 E01 E3B E40 E4F E50
  E5A E81 E83 E84 E85 E86 E8B E8C EA4 EA5 EA6 EA7 EBE EC0 EC5 EC6 EC7 EC8 ECF ED0 EDA EDC EE0 F00
  F01 F18 F1A F20 F2A F35 F36 F37 F38 F39 F3A F3E F48 F49 F6D F71 F85 F86 F98 F99 FBD FC6 FC7 1000
  104A 1050 109E 10A0 10C6 10C7 10C8 10CD 10CE 10D0 10FB 10FC 1249 124A 124E 1250 1257 1258 1259
  125A 125E 1260 1289 128A 128E 1290 12B1 12B2 12B6 12B8 12BF 12C0 12C1 12C2 12C6 12C8 12D7 12D8
  1311 1312 1316 1318 135B 135D 1360 1369 1372 1380 1390 13A0 13F6 13F8 13FE 1401 166D 166F 1680
  1681 169B 16A0 16EB 16EE 16F9 1700 1716 171F 1735 1740 1754 1760 176D 176E 1771 1772 1774 1780
  17D4 17D7 17D8 17DC 17DE 17E0 17EA 180B 180E 180F 181A 1820 1879 1880 18AB 18B0 18F6 1900 191F
  1920 192C 1930 193C 1946 196E 1970 1975 1980 19AC 19B0 19CA 19D0 19DB 1A00 1A1C 1A20 1A5F 1A60
  1A7D 1A7F 1A8A 1A90 1A9A 1AA7 1AA8 1AB0 1ABE 1ABF 1ACF 1B00 1B4D 1B50 1B5A 1B6B 1B74 1B80 1BF4
  1C00 1C38 1C40 1C4A 1C4D 1C7E 1C80 1C8B 1C90 1CBB 1CBD 1CC0 1CD0 1CD3 1CD4 1CFB 1D00 1F16 1F18
  1F1E 1F20 1F46 1F48 1F4E 1F50 1F58 1F59 1F5A 1F5B 1F5C 1F5D 1F5E 1F5F 1F7E 1F80 1FB5 1FB6 1FBD
  1FBE 1FBF 1FC2 1FC5 1FC6 1FCD 1FD0 1FD4 1FD6 1FDC 1FE0 1FED 1FF2 1FF5 1FF6 1FFD 203F 2041 2054
  2055 2071 2072 207F 2080 2090 209D 20D0 20DD 20E1 20E2 20E5 20F1 2102 2103 2107 2108 210A 2114
  2115 2116 2118 211E 2124 2125 2126 2127 2128 2129 212A 213A 213C 2140 2145 214A 214E 214F 2160
  2189 2C00 2CE5 2CEB 2CF4 2D00 2D26 2D27 2D28 2D2D 2D2E 2D30 2D68 2D6F 2D70 2D7F 2D97 2DA0 2DA7
  2DA8 2DAF 2DB0 2DB7 2DB8 2DBF 2DC0 2DC7 2DC8 2DCF 2DD0 2DD7 2DD8 2DDF 2DE0 2E00 3005 3008 3021
  3030 3031 3036 3038 303D 3041 3097 3099 309B 309D 30A0 30A1 30FB 30FC 3100 3105 3130 3131 318F
  31A0 31C0 31F0 3200 3400 4DC0 4E00 A48D A4D0 A4FE A500 A60D A610 A62C A640 A670 A674 A67E A67F
  A6F2 A717 A720 A722 A789 A78B A7CE A7D0 A7D2 A7D3 A7D4 A7D5 A7DD A7F2 A828 A82C A82D A840 A874
  A880 A8C6 A8D0 A8DA A8E0 A8F8 A8FB A8FC A8FD A92E A930 A954 A960 A97D A980 A9C1 A9CF A9DA A9E0
  A9FF AA00 AA37 AA40 AA4E AA50 AA5A AA60 AA77 AA7A AAC3 AADB AADE AAE0 AAF0 AAF2 AAF7 AB01 AB07
  AB09 AB0F AB11 AB17 AB20 AB27 AB28 AB2F AB30 AB5B AB5C AB6A AB70 ABEB ABEC ABEE ABF0 ABFA AC00
  D7A4 D7B0 D7C7 D7CB D7FC F900 FA6E FA70 FADA FB00 FB07 FB13 FB18 FB1D FB29 FB2A FB37 FB38 FB3D
  FB3E FB3F FB40 FB42 FB43 FB45 FB46 FBB2 FBD3 FC5E FC64 FD3E FD50 FD90 FD92 FDC8 FDF0 FDFA FE00
  FE10 FE20 FE30 FE33 FE35 FE4D FE50 FE71 FE72 FE73 FE74 FE77 FE78 FE79 FE7A FE7B FE7C FE7D FE7E
  FE7F FEFD FF10 FF1A FF21 FF3B FF3F FF40 FF41 FF5B FF66 FFBF FFC2 FFC8 FFCA FFD0 FFD2 FFD8 FFDA
  FFDD 10000 1000C 1000D 10027 10028 1003B 1003C 1003E 1003F 1004E 10050 1005E 10080 100FB 10140
  10175 101FD 101FE 10280 1029D 102A0 102D1 102E0 102E1 10300 10320 1032D 1034B 10350 1037B 10380
  1039E 103A0 103C4 103C8 103D0 103D1 103D6 10400 1049E 104A0 104AA 104B0 104D4 104D8 104FC 10500
  10528 10530 10564 10570 1057B 1057C 1058B 1058C 10593 10594 10596 10597 105A2 105A3 105B2 105B3
  105BA 105BB 105BD 105C0 105F4 10600 10737 10740 10756 10760 10768 10780 10786 10787 107B1 107B2
  107BB 10800 10806 10808 10809 1080A 10836 10837 10839 1083C 1083D 1083F 10856 10860 10877 10880
  1089F 108E0 108F3 108F4 108F6 10900 10916 10920 1093A 10980 109B8 109BE 109C0 10A00 10A04 10A05
  10A07 10A0C 10A14 10A15 10A18 10A19 10A36 10A38 10A3B 10A3F 10A40 10A60 10A7D 10A80 10A9D 10AC0
  10AC8 10AC9 10AE7 10B00 10B36 10B40 10B56 10B60 10B73 10B80 10B92 10C00 10C49 10C80 10CB3 10CC0
  10CF3 10D00 10D28 10D30 10D3A 10D40 10D66 10D69 10D6E 10D6F 10D86 10E80 10EAA 10EAB 10EAD 10EB0
  10EB2 10EC2 10EC5 10EFC 10F1D 10F27 10F28 10F30 10F51 10F70 10F86 10FB0 10FC5 10FE0 10FF7 11000
  11047 11066 11076 1107F 110BB 110C2 110C3 110D0 110E9 110F0 110FA 11100 11135 11136 11140 11144
  11148 11150 11174 11176 11177 11180 111C5 111C9 111CD 111CE 111DB 111DC 111DD 11200 11212 11213
  11238 1123E 11242 11280 11287 11288 11289 1128A 1128E 1128F 1129E 1129F 112A9 112B0 112EB 112F0
  112FA 11300 11304 11305 1130D 1130F 11311 11313 11329 1132A 11331 11332 11334 11335 1133A 1133B
  11345 11347 11349 1134B 1134E 11350 11351 11357 11358 1135D 11364 11366 1136D 11370 11375 11380
  1138A 1138B 1138C 1138E 1138F 11390 113B6 113B7 113C1 113C2 113C3 113C5 113C6 113C7 113CB 113CC
  113D4 113E1 113E3 11400 1144B 11450 1145A 1145E 11462 11480 114C6 114C7 114C8 114D0 114DA 11580
  115B6 115B8 115C1 115D8 115DE 11600 11641 11644 11645 11650 1165A 11680 116B9 116C0 116CA 116D0
  116E4 11700 1171B 1171D 1172C 11730 1173A 11740 11747 11800 1183B 118A0 118EA 118FF 11907 11909
  1190A 1190C 11914 11915 11917 11918 11936 11937 11939 1193B 11944 11950 1195A 119A0 119A8 119AA
  119D8 119DA 119E2 119E3 119E5 11A00 11A3F 11A47 11A48 11A50 11A9A 11A9D 11A9E 11AB0 11AF9 11BC0
  11BE1 11BF0 11BFA 11C00 11C09 11C0A 11C37 11C38 11C41 11C50 11C5A 11C72 11C90 11C92 11CA8 11CA9
  11CB7 11D00 11D07 11D08 11D0A 11D0B 11D37 11D3A 11D3B 11D3C 11D3E 11D3F 11D48 11D50 11D5A 11D60
  11D66 11D67 11D69 11D6A 11D8F 11D90 11D92 11D93 11D99 11DA0 11DAA 11EE0 11EF7 11F00 11F11 11F12
  11F3B 11F3E 11F43 11F50 11F5B 11FB0 11FB1 12000 1239A 12400 1246F 12480 12544 12F90 12FF1 13000
  13430 13440 13456 13460 143FB 14400 14647 16100 1613A 16800 16A39 16A40 16A5F 16A60 16A6A 16A70
  16ABF 16AC0 16ACA 16AD0 16AEE 16AF0 16AF5 16B00 16B37 16B40 16B44 16B50 16B5A 16B63 16B78 16B7D
  16B90 16D40 16D6D 16D70 16D7A 16E40 16E80 16F00 16F4B 16F4F 16F88 16F8F 16FA0 16FE0 16FE2 16FE3
  16FE5 16FF0 16FF2 17000 187F8 18800 18CD6 18CFF 18D09 1AFF0 1AFF4 1AFF5 1AFFC 1AFFD 1AFFF 1B000
  1B123 1B132 1B133 1B150 1B153 1B155 1B156 1B164 1B168 1B170 1B2FC 1BC00 1BC6B 1BC70 1BC7D 1BC80
  1BC89 1BC90 1BC9A 1BC9D 1BC9F 1CCF0 1CCFA 1CF00 1CF2E 1CF30 1CF47 1D165 1D16A 1D16D 1D173 1D17B
  1D183 1D185 1D18C 1D1AA 1D1AE 1D242 1D245 1D400 1D455 1D456 1D49D 1D49E 1D4A0 1D4A2 1D4A3 1D4A5
  1D4A7 1D4A9 1D4AD 1D4AE 1D4BA 1D4BB 1D4BC 1D4BD 1D4C4 1D4C5 1D506 1D507 1D50B 1D50D 1D515 1D516
  1D51D 1D51E 1D53A 1D53B 1D53F 1D540 1D545 1D546 1D547 1D54A 1D551 1D552 1D6A6 1D6A8 1D6C1 1D6C2
  1D6DB 1D6DC 1D6FB 1D6FC 1D715 1D716 1D735 1D736 1D74F 1D750 1D76F 1D770 1D789 1D78A 1D7A9 1D7AA
  1D7C3 1D7C4 1D7CC 1D7CE 1D800 1DA00 1DA37 1DA3B 1DA6D 1DA75 1DA76 1DA84 1DA85 1DA9B 1DAA0 1DAA1
  1DAB0 1DF00 1DF1F 1DF25 1DF2B 1E000 1E007 1E008 1E019 1E01B 1E022 1E023 1E025 1E026 1E02B 1E030
  1E06E 1E08F 1E090 1E100 1E12D 1E130 1E13E 1E140 1E14A 1E14E 1E14F 1E290 1E2AF 1E2C0 1E2FA 1E4D0
  1E4FA 1E5D0 1E5FB 1E7E0 1E7E7 1E7E8 1E7EC 1E7ED 1E7EF 1E7F0 1E7FF 1E800 1E8C5 1E8D0 1E8D7 1E900
  1E94C 1E950 1E95A 1EE00 1EE04 1EE05 1EE20 1EE21 1EE23 1EE24 1EE25 1EE27 1EE28 1EE29 1EE33 1EE34
  1EE38 1EE39 1EE3A 1EE3B 1EE3C 1EE42 1EE43 1EE47 1EE48 1EE49 1EE4A 1EE4B 1EE4C 1EE4D 1EE50 1EE51
  1EE53 1EE54 1EE55 1EE57 1EE58 1EE59 1EE5A 1EE5B 1EE5C 1EE5D 1EE5E 1EE5F 1EE60 1EE61 1EE63 1EE64
  1EE65 1EE67 1EE6B 1EE6C 1EE73 1EE74 1EE78 1EE79 1EE7D 1EE7E 1EE7F 1EE80 1EE8A 1EE8B 1EE9C 1EEA1
  1EEA4 1EEA5 1EEAA 1EEAB 1EEBC 1FBF0 1FBFA 20000 2A6E0 2A700 2B73A 2B740 2B81E 2B820 2CEA2 2CEB0
  2EBE1 2EBF0 2EE5E 2F800 2FA1E 30000 3134B 31350 323B0 E0100 E01F0"

/-- The code points with the property `Pattern Syntax`. -/
def patternSyntaxPoints : PointSet :=
  PointSet.ofText
  "21 30 3A 41 5B 5F 60 61 7B 7F A1 A8 A9 AA AB AD AE AF B0 B2 B6 B7 BB BC BF C0 D7 D8 F7 F8 2010
  2028 2030 203F 2041 2054 2055 205F 2190 2460 2500 2776 2794 2C00 2E00 2E80 3001 3004 3008 3021
  3030 3031 FD3E FD40 FE45 FE47"

/-- The code points with the property `Pattern White Space`. -/
def patternWhiteSpacePoints : PointSet :=
  PointSet.ofText
  "9 E 20 21 85 86 200E 2010 2028 202A"

/-- These properties under their names. -/
def identifierProperties : List (List String × PointSet) :=
  [(["idstart", "ids"], idStartPoints),
   (["idcontinue", "idc"], idContinuePoints),
   (["xidstart", "xids"], xidStartPoints),
   (["xidcontinue", "xidc"], xidContinuePoints),
   (["patternsyntax", "patsyn"], patternSyntaxPoints),
   (["patternwhitespace", "patws"], patternWhiteSpacePoints)]

end BoundedRegex.Unicode
