import BoundedRegex.Unicode.Table

/-!
# Grapheme clusters

A grapheme cluster is what a reader takes for one character: a base with the marks that extend it,
a syllable of Hangul letters, a pair of regional indicators, or pictographs that joiners hold
together. Whether two neighbours belong together depends on their break classes and a little on
what stands before them.
-/
namespace BoundedRegex.Unicode

/-- The grapheme break class of a code point. -/
inductive GraphemeBreak where
  /-- Carriage return. -/
  | cr
  /-- Line feed. -/
  | lf
  | control
  /-- Marks and modifiers that extend what stands before them. -/
  | extend
  /-- Marks that precede what they belong to. -/
  | prepend
  | spacingMark
  /-- Leading Hangul consonants. -/
  | l
  /-- Hangul vowels. -/
  | v
  /-- Trailing Hangul consonants. -/
  | t
  /-- Hangul syllables without a trailing consonant. -/
  | lv
  /-- Hangul syllables with one. -/
  | lvt
  /-- Regional indicators, which form flags in pairs. -/
  | regionalIndicator
  /-- The zero width joiner. -/
  | joiner
  | pictograph
  /-- Everything else. -/
  | other
  deriving DecidableEq, Repr

/-- The class that the written table means by a name. Syllables are told apart by arithmetic. -/
def GraphemeBreak.ofName : String → GraphemeBreak
  | "cr" => .cr
  | "lf" => .lf
  | "ctl" => .control
  | "ext" => .extend
  | "pre" => .prepend
  | "sm" => .spacingMark
  | "l" => .l
  | "v" => .v
  | "t" => .t
  | "h" => .lvt
  | "ri" => .regionalIndicator
  | "zwj" => .joiner
  | "pic" => .pictograph
  | _ => .other

def graphemeBreakRuns : RunMap GraphemeBreak :=
  RunMap.ofText GraphemeBreak.ofName
  "0 ctl A lf B ctl D cr E ctl 20 oth 7F ctl A0 oth A9 pic AA oth AD ctl AE pic AF oth 300 ext 370
  oth 483 ext 48A oth 591 ext 5BE oth 5BF ext 5C0 oth 5C1 ext 5C3 oth 5C4 ext 5C6 oth 5C7 ext 5C8
  oth 600 pre 606 oth 610 ext 61B oth 61C ctl 61D oth 64B ext 660 oth 670 ext 671 oth 6D6 ext 6DD
  pre 6DE oth 6DF ext 6E5 oth 6E7 ext 6E9 oth 6EA ext 6EE oth 70F pre 710 oth 711 ext 712 oth 730
  ext 74B oth 7A6 ext 7B1 oth 7EB ext 7F4 oth 7FD ext 7FE oth 816 ext 81A oth 81B ext 824 oth 825
  ext 828 oth 829 ext 82E oth 859 ext 85C oth 890 pre 892 oth 897 ext 8A0 oth 8CA ext 8E2 pre 8E3
  ext 903 sm 904 oth 93A ext 93B sm 93C ext 93D oth 93E sm 941 ext 949 sm 94D ext 94E sm 950 oth
  951 ext 958 oth 962 ext 964 oth 981 ext 982 sm 984 oth 9BC ext 9BD oth 9BE ext 9BF sm 9C1 ext
  9C5 oth 9C7 sm 9C9 oth 9CB sm 9CD ext 9CE oth 9D7 ext 9D8 oth 9E2 ext 9E4 oth 9FE ext 9FF oth
  A01 ext A03 sm A04 oth A3C ext A3D oth A3E sm A41 ext A43 oth A47 ext A49 oth A4B ext A4E oth
  A51 ext A52 oth A70 ext A72 oth A75 ext A76 oth A81 ext A83 sm A84 oth ABC ext ABD oth ABE sm
  AC1 ext AC6 oth AC7 ext AC9 sm ACA oth ACB sm ACD ext ACE oth AE2 ext AE4 oth AFA ext B00 oth
  B01 ext B02 sm B04 oth B3C ext B3D oth B3E ext B40 sm B41 ext B45 oth B47 sm B49 oth B4B sm B4D
  ext B4E oth B55 ext B58 oth B62 ext B64 oth B82 ext B83 oth BBE ext BBF sm BC0 ext BC1 sm BC3
  oth BC6 sm BC9 oth BCA sm BCD ext BCE oth BD7 ext BD8 oth C00 ext C01 sm C04 ext C05 oth C3C ext
  C3D oth C3E ext C41 sm C45 oth C46 ext C49 oth C4A ext C4E oth C55 ext C57 oth C62 ext C64 oth
  C81 ext C82 sm C84 oth CBC ext CBD oth CBE sm CBF ext CC0 sm CC2 ext CC3 sm CC5 oth CC6 ext CC7
  sm CC9 oth CCA sm CCC ext CCE oth CD5 ext CD7 oth CE2 ext CE4 oth CF3 sm CF4 oth D00 ext D02 sm
  D04 oth D3B ext D3D oth D3E ext D3F sm D41 ext D45 oth D46 sm D49 oth D4A sm D4D ext D4E pre D4F
  oth D57 ext D58 oth D62 ext D64 oth D81 ext D82 sm D84 oth DCA ext DCB oth DCF ext DD0 sm DD2
  ext DD5 oth DD6 ext DD7 oth DD8 sm DDF ext DE0 oth DF2 sm DF4 oth E31 ext E32 oth E33 sm E34 ext
  E3B oth E47 ext E4F oth EB1 ext EB2 oth EB3 sm EB4 ext EBD oth EC8 ext ECF oth F18 ext F1A oth
  F35 ext F36 oth F37 ext F38 oth F39 ext F3A oth F3E sm F40 oth F71 ext F7F sm F80 ext F85 oth
  F86 ext F88 oth F8D ext F98 oth F99 ext FBD oth FC6 ext FC7 oth 102D ext 1031 sm 1032 ext 1038
  oth 1039 ext 103B sm 103D ext 103F oth 1056 sm 1058 ext 105A oth 105E ext 1061 oth 1071 ext 1075
  oth 1082 ext 1083 oth 1084 sm 1085 ext 1087 oth 108D ext 108E oth 109D ext 109E oth 1100 l 1160
  v 11A8 t 1200 oth 135D ext 1360 oth 1712 ext 1715 sm 1716 oth 1732 ext 1734 sm 1735 oth 1752 ext
  1754 oth 1772 ext 1774 oth 17B4 ext 17B6 sm 17B7 ext 17BE sm 17C6 ext 17C7 sm 17C9 ext 17D4 oth
  17DD ext 17DE oth 180B ext 180E ctl 180F ext 1810 oth 1885 ext 1887 oth 18A9 ext 18AA oth 1920
  ext 1923 sm 1927 ext 1929 sm 192C oth 1930 sm 1932 ext 1933 sm 1939 ext 193C oth 1A17 ext 1A19
  sm 1A1B ext 1A1C oth 1A55 sm 1A56 ext 1A57 sm 1A58 ext 1A5F oth 1A60 ext 1A61 oth 1A62 ext 1A63
  oth 1A65 ext 1A6D sm 1A73 ext 1A7D oth 1A7F ext 1A80 oth 1AB0 ext 1ACF oth 1B00 ext 1B04 sm 1B05
  oth 1B34 ext 1B3B sm 1B3C ext 1B3D sm 1B42 ext 1B43 sm 1B45 oth 1B6B ext 1B74 oth 1B80 ext 1B82
  sm 1B83 oth 1BA1 sm 1BA2 ext 1BA6 sm 1BA8 ext 1BAA sm 1BAB ext 1BAE oth 1BE6 ext 1BE7 sm 1BE8
  ext 1BEA sm 1BED ext 1BEE sm 1BEF ext 1BF2 sm 1BF4 oth 1C24 sm 1C2C ext 1C34 sm 1C36 ext 1C38
  oth 1CD0 ext 1CD3 oth 1CD4 ext 1CE1 sm 1CE2 ext 1CE9 oth 1CED ext 1CEE oth 1CF4 ext 1CF5 oth
  1CF7 sm 1CF8 ext 1CFA oth 1DC0 ext 1E00 oth 200B ctl 200C ext 200D zwj 200E ctl 2010 oth 2028
  ctl 202F oth 203C pic 203D oth 2049 pic 204A oth 2060 ctl 2070 oth 20D0 ext 20F1 oth 2122 pic
  2123 oth 2139 pic 213A oth 2194 pic 219A oth 21A9 pic 21AB oth 231A pic 231C oth 2328 pic 2329
  oth 2388 pic 2389 oth 23CF pic 23D0 oth 23E9 pic 23F4 oth 23F8 pic 23FB oth 24C2 pic 24C3 oth
  25AA pic 25AC oth 25B6 pic 25B7 oth 25C0 pic 25C1 oth 25FB pic 25FF oth 2600 pic 2606 oth 2607
  pic 2613 oth 2614 pic 2686 oth 2690 pic 2706 oth 2708 pic 2713 oth 2714 pic 2715 oth 2716 pic
  2717 oth 271D pic 271E oth 2721 pic 2722 oth 2728 pic 2729 oth 2733 pic 2735 oth 2744 pic 2745
  oth 2747 pic 2748 oth 274C pic 274D oth 274E pic 274F oth 2753 pic 2756 oth 2757 pic 2758 oth
  2763 pic 2768 oth 2795 pic 2798 oth 27A1 pic 27A2 oth 27B0 pic 27B1 oth 27BF pic 27C0 oth 2934
  pic 2936 oth 2B05 pic 2B08 oth 2B1B pic 2B1D oth 2B50 pic 2B51 oth 2B55 pic 2B56 oth 2CEF ext
  2CF2 oth 2D7F ext 2D80 oth 2DE0 ext 2E00 oth 302A ext 3030 pic 3031 oth 303D pic 303E oth 3099
  ext 309B oth 3297 pic 3298 oth 3299 pic 329A oth A66F ext A673 oth A674 ext A67E oth A69E ext
  A6A0 oth A6F0 ext A6F2 oth A802 ext A803 oth A806 ext A807 oth A80B ext A80C oth A823 sm A825
  ext A827 sm A828 oth A82C ext A82D oth A880 sm A882 oth A8B4 sm A8C4 ext A8C6 oth A8E0 ext A8F2
  oth A8FF ext A900 oth A926 ext A92E oth A947 ext A952 sm A954 oth A960 l A97D oth A980 ext A983
  sm A984 oth A9B3 ext A9B4 sm A9B6 ext A9BA sm A9BC ext A9BE sm A9C1 oth A9E5 ext A9E6 oth AA29
  ext AA2F sm AA31 ext AA33 sm AA35 ext AA37 oth AA43 ext AA44 oth AA4C ext AA4D sm AA4E oth AA7C
  ext AA7D oth AAB0 ext AAB1 oth AAB2 ext AAB5 oth AAB7 ext AAB9 oth AABE ext AAC0 oth AAC1 ext
  AAC2 oth AAEB sm AAEC ext AAEE sm AAF0 oth AAF5 sm AAF6 ext AAF7 oth ABE3 sm ABE5 ext ABE6 sm
  ABE8 ext ABE9 sm ABEB oth ABEC sm ABED ext ABEE oth AC00 h D7A4 oth D7B0 v D7C7 oth D7CB t D7FC
  oth FB1E ext FB1F oth FE00 ext FE10 oth FE20 ext FE30 oth FEFF ctl FF00 oth FF9E ext FFA0 oth
  FFF0 ctl FFFC oth 101FD ext 101FE oth 102E0 ext 102E1 oth 10376 ext 1037B oth 10A01 ext 10A04
  oth 10A05 ext 10A07 oth 10A0C ext 10A10 oth 10A38 ext 10A3B oth 10A3F ext 10A40 oth 10AE5 ext
  10AE7 oth 10D24 ext 10D28 oth 10D69 ext 10D6E oth 10EAB ext 10EAD oth 10EFC ext 10F00 oth 10F46
  ext 10F51 oth 10F82 ext 10F86 oth 11000 sm 11001 ext 11002 sm 11003 oth 11038 ext 11047 oth
  11070 ext 11071 oth 11073 ext 11075 oth 1107F ext 11082 sm 11083 oth 110B0 sm 110B3 ext 110B7 sm
  110B9 ext 110BB oth 110BD pre 110BE oth 110C2 ext 110C3 oth 110CD pre 110CE oth 11100 ext 11103
  oth 11127 ext 1112C sm 1112D ext 11135 oth 11145 sm 11147 oth 11173 ext 11174 oth 11180 ext
  11182 sm 11183 oth 111B3 sm 111B6 ext 111BF sm 111C1 oth 111C2 pre 111C4 oth 111C9 ext 111CD oth
  111CE sm 111CF ext 111D0 oth 1122C sm 1122F ext 11232 sm 11234 ext 11235 sm 11236 ext 11238 oth
  1123E ext 1123F oth 11241 ext 11242 oth 112DF ext 112E0 sm 112E3 ext 112EB oth 11300 ext 11302
  sm 11304 oth 1133B ext 1133D oth 1133E ext 1133F sm 11340 ext 11341 sm 11345 oth 11347 sm 11349
  oth 1134B sm 1134E oth 11357 ext 11358 oth 11362 sm 11364 oth 11366 ext 1136D oth 11370 ext
  11375 oth 113B8 ext 113B9 sm 113BB ext 113C1 oth 113C2 ext 113C3 oth 113C5 ext 113C6 oth 113C7
  ext 113CA sm 113CB oth 113CC sm 113CE ext 113D1 pre 113D2 ext 113D3 oth 113E1 ext 113E3 oth
  11435 sm 11438 ext 11440 sm 11442 ext 11445 sm 11446 ext 11447 oth 1145E ext 1145F oth 114B0 ext
  114B1 sm 114B3 ext 114B9 sm 114BA ext 114BB sm 114BD ext 114BE sm 114BF ext 114C1 sm 114C2 ext
  114C4 oth 115AF ext 115B0 sm 115B2 ext 115B6 oth 115B8 sm 115BC ext 115BE sm 115BF ext 115C1 oth
  115DC ext 115DE oth 11630 sm 11633 ext 1163B sm 1163D ext 1163E sm 1163F ext 11641 oth 116AB ext
  116AC sm 116AD ext 116AE sm 116B0 ext 116B6 sm 116B7 ext 116B8 oth 1171D ext 11720 oth 11722 ext
  11726 sm 11727 ext 1172C oth 1182C sm 1182F ext 11838 sm 11839 ext 1183B oth 11930 ext 11931 sm
  11936 oth 11937 sm 11939 oth 1193B ext 1193D sm 1193E ext 1193F pre 11940 sm 11941 pre 11942 sm
  11943 ext 11944 oth 119D1 sm 119D4 ext 119D8 oth 119DA ext 119DC sm 119E0 ext 119E1 oth 119E4 sm
  119E5 oth 11A01 ext 11A0B oth 11A33 ext 11A39 sm 11A3A pre 11A3B ext 11A3F oth 11A47 ext 11A48
  oth 11A51 ext 11A57 sm 11A59 ext 11A5C oth 11A84 pre 11A8A ext 11A97 sm 11A98 ext 11A9A oth
  11C2F sm 11C30 ext 11C37 oth 11C38 ext 11C3E sm 11C3F ext 11C40 oth 11C92 ext 11CA8 oth 11CA9 sm
  11CAA ext 11CB1 sm 11CB2 ext 11CB4 sm 11CB5 ext 11CB7 oth 11D31 ext 11D37 oth 11D3A ext 11D3B
  oth 11D3C ext 11D3E oth 11D3F ext 11D46 pre 11D47 ext 11D48 oth 11D8A sm 11D8F oth 11D90 ext
  11D92 oth 11D93 sm 11D95 ext 11D96 sm 11D97 ext 11D98 oth 11EF3 ext 11EF5 sm 11EF7 oth 11F00 ext
  11F02 pre 11F03 sm 11F04 oth 11F34 sm 11F36 ext 11F3B oth 11F3E sm 11F40 ext 11F41 sm 11F42 ext
  11F43 oth 11F5A ext 11F5B oth 13430 ctl 13440 ext 13441 oth 13447 ext 13456 oth 1611E ext 1612A
  sm 1612D ext 16130 oth 16AF0 ext 16AF5 oth 16B30 ext 16B37 oth 16F4F ext 16F50 oth 16F51 sm
  16F88 oth 16F8F ext 16F93 oth 16FE4 ext 16FE5 oth 16FF0 sm 16FF2 oth 1BC9D ext 1BC9F oth 1BCA0
  ctl 1BCA4 oth 1CF00 ext 1CF2E oth 1CF30 ext 1CF47 oth 1D165 ext 1D166 sm 1D167 ext 1D16A oth
  1D16D sm 1D16E ext 1D173 ctl 1D17B ext 1D183 oth 1D185 ext 1D18C oth 1D1AA ext 1D1AE oth 1D242
  ext 1D245 oth 1DA00 ext 1DA37 oth 1DA3B ext 1DA6D oth 1DA75 ext 1DA76 oth 1DA84 ext 1DA85 oth
  1DA9B ext 1DAA0 oth 1DAA1 ext 1DAB0 oth 1E000 ext 1E007 oth 1E008 ext 1E019 oth 1E01B ext 1E022
  oth 1E023 ext 1E025 oth 1E026 ext 1E02B oth 1E08F ext 1E090 oth 1E130 ext 1E137 oth 1E2AE ext
  1E2AF oth 1E2EC ext 1E2F0 oth 1E4EC ext 1E4F0 oth 1E5EE ext 1E5F0 oth 1E8D0 ext 1E8D7 oth 1E944
  ext 1E94B oth 1F000 pic 1F100 oth 1F10D pic 1F110 oth 1F12F pic 1F130 oth 1F16C pic 1F172 oth
  1F17E pic 1F180 oth 1F18E pic 1F18F oth 1F191 pic 1F19B oth 1F1AD pic 1F1E6 ri 1F200 oth 1F201
  pic 1F210 oth 1F21A pic 1F21B oth 1F22F pic 1F230 oth 1F232 pic 1F23B oth 1F23C pic 1F240 oth
  1F249 pic 1F3FB ext 1F400 pic 1F53E oth 1F546 pic 1F650 oth 1F680 pic 1F700 oth 1F774 pic 1F780
  oth 1F7D5 pic 1F800 oth 1F80C pic 1F810 oth 1F848 pic 1F850 oth 1F85A pic 1F860 oth 1F888 pic
  1F890 oth 1F8AE pic 1F900 oth 1F90C pic 1F93B oth 1F93C pic 1F946 oth 1F947 pic 1FB00 oth 1FC00
  pic 1FFFE oth E0000 ctl E0020 ext E0080 ctl E0100 ext E01F0 ctl E1000 oth"

/-- The break class of a code point. Every twenty-eighth syllable has no trailing consonant. -/
def graphemeBreakOf (c : Nat) : GraphemeBreak :=
  if 0xAC00 ≤ c ∧ c ≤ 0xD7A3 then if (c - 0xAC00) % 28 == 0 then .lv else .lvt
  else (graphemeBreakRuns.get? c).getD .other

/-- Whether neighbours of these classes belong to one cluster, context aside. -/
def GraphemeBreak.joins : GraphemeBreak → GraphemeBreak → Bool
  | .cr, .lf => true
  | .cr, _ | .lf, _ | .control, _ => false
  | _, .cr | _, .lf | _, .control => false
  | _, .extend | _, .spacingMark | _, .joiner => true
  | .prepend, _ => true
  | .l, .l | .l, .v | .l, .lv | .l, .lvt => true
  | .lv, .v | .lv, .t | .v, .v | .v, .t => true
  | .lvt, .t | .t, .t => true
  | .regionalIndicator, .regionalIndicator => true
  | .joiner, .pictograph => true
  | _, _ => false

end BoundedRegex.Unicode
