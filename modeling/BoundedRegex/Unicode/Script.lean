import BoundedRegex.Unicode.Table

/-!
# Scripts

Every code point belongs to one script. Some, such as marks and punctuation that several scripts
share, belong to `common` or `inherited` and list the scripts that use them as extensions.
-/
namespace BoundedRegex.Unicode

/-- A script, by its four-letter code in lower case. -/
structure Script where
  code : String
  deriving DecidableEq, Repr

/-- The names of each script, without separators and in lower case; its code comes first. -/
def scriptNames : Array (List String) :=
  (
  "adlm,adlam aghb,caucasianalbanian ahom arab,arabic armi,imperialaramaic armn,armenian
  avst,avestan bali,balinese bamu,bamum bass,bassavah batk,batak beng,bengali bhks,bhaiksuki
  bopo,bopomofo brah,brahmi brai,braille bugi,buginese buhd,buhid cakm,chakma
  cans,canadianaboriginal cari,carian cham cher,cherokee chrs,chorasmian copt,coptic,qaac
  cpmn,cyprominoan cprt,cypriot cyrl,cyrillic deva,devanagari diak,divesakuru dogr,dogra
  dsrt,deseret dupl,duployan egyp,egyptianhieroglyphs elba,elbasan elym,elymaic ethi,ethiopic
  gara,garay geor,georgian glag,glagolitic gong,gunjalagondi gonm,masaramgondi goth,gothic
  gran,grantha grek,greek gujr,gujarati gukh,gurungkhema guru,gurmukhi hang,hangul hani,han
  hano,hanunoo hatr,hatran hebr,hebrew hira,hiragana hluw,anatolianhieroglyphs hmng,pahawhhmong
  hmnp,nyiakengpuachuehmong hung,oldhungarian ital,olditalic java,javanese kali,kayahli
  kana,katakana kawi khar,kharoshthi khmr,khmer khoj,khojki kits,khitansmallscript knda,kannada
  krai,kiratrai kthi,kaithi lana,taitham laoo,lao latn,latin lepc,lepcha limb,limbu lina,lineara
  linb,linearb lisu lyci,lycian lydi,lydian mahj,mahajani maka,makasar mand,mandaic
  mani,manichaean marc,marchen medf,medefaidrin mend,mendekikakui merc,meroiticcursive
  mero,meroitichieroglyphs mlym,malayalam modi mong,mongolian mroo,mro mtei,meeteimayek
  mult,multani mymr,myanmar nagm,nagmundari nand,nandinagari narb,oldnortharabian nbat,nabataean
  newa nkoo,nko nshu,nushu ogam,ogham olck,olchiki onao,olonal orkh,oldturkic orya,oriya
  osge,osage osma,osmanya ougr,olduyghur palm,palmyrene pauc,paucinhau perm,oldpermic phag,phagspa
  phli,inscriptionalpahlavi phlp,psalterpahlavi phnx,phoenician plrd,miao
  prti,inscriptionalparthian rjng,rejang rohg,hanifirohingya runr,runic samr,samaritan
  sarb,oldsoutharabian saur,saurashtra sgnw,signwriting shaw,shavian shrd,sharada sidd,siddham
  sind,khudawadi sinh,sinhala sogd,sogdian sogo,oldsogdian sora,sorasompeng soyo,soyombo
  sund,sundanese sunu,sunuwar sylo,sylotinagri syrc,syriac tagb,tagbanwa takr,takri tale,taile
  talu,newtailue taml,tamil tang,tangut tavt,taiviet telu,telugu tfng,tifinagh tglg,tagalog
  thaa,thaana thai tibt,tibetan tirh,tirhuta tnsa,tangsa todr,todhri toto tutg,tulutigalari
  ugar,ugaritic vaii,vai vith,vithkuqi wara,warangciti wcho,wancho xpeo,oldpersian xsux,cuneiform
  yezi,yezidi yiii,yi zanb,zanabazarsquare zinh,inherited,qaai zyyy,common zzzz,unknown"
  |> words).toArray.map (·.splitOn ",")

def Script.ofName? (name : String) : Option Script :=
  (scriptNames.find? (·.contains name)).map (fun names => ⟨names.headD ""⟩)

def scriptRuns : RunMap Script :=
  RunMap.ofText Script.mk
  "0 zyyy 41 latn 5B zyyy 61 latn 7B zyyy AA latn AB zyyy BA latn BB zyyy C0 latn D7 zyyy D8 latn
  F7 zyyy F8 latn 2B9 zyyy 2E0 latn 2E5 zyyy 2EA bopo 2EC zyyy 300 zinh 370 grek 374 zyyy 375 grek
  378 zzzz 37A grek 37E zyyy 37F grek 380 zzzz 384 grek 385 zyyy 386 grek 387 zyyy 388 grek 38B
  zzzz 38C grek 38D zzzz 38E grek 3A2 zzzz 3A3 grek 3E2 copt 3F0 grek 400 cyrl 485 zinh 487 cyrl
  530 zzzz 531 armn 557 zzzz 559 armn 58B zzzz 58D armn 590 zzzz 591 hebr 5C8 zzzz 5D0 hebr 5EB
  zzzz 5EF hebr 5F5 zzzz 600 arab 605 zyyy 606 arab 60C zyyy 60D arab 61B zyyy 61C arab 61F zyyy
  620 arab 640 zyyy 641 arab 64B zinh 656 arab 670 zinh 671 arab 6DD zyyy 6DE arab 700 syrc 70E
  zzzz 70F syrc 74B zzzz 74D syrc 750 arab 780 thaa 7B2 zzzz 7C0 nkoo 7FB zzzz 7FD nkoo 800 samr
  82E zzzz 830 samr 83F zzzz 840 mand 85C zzzz 85E mand 85F zzzz 860 syrc 86B zzzz 870 arab 88F
  zzzz 890 arab 892 zzzz 897 arab 8E2 zyyy 8E3 arab 900 deva 951 zinh 955 deva 964 zyyy 966 deva
  980 beng 984 zzzz 985 beng 98D zzzz 98F beng 991 zzzz 993 beng 9A9 zzzz 9AA beng 9B1 zzzz 9B2
  beng 9B3 zzzz 9B6 beng 9BA zzzz 9BC beng 9C5 zzzz 9C7 beng 9C9 zzzz 9CB beng 9CF zzzz 9D7 beng
  9D8 zzzz 9DC beng 9DE zzzz 9DF beng 9E4 zzzz 9E6 beng 9FF zzzz A01 guru A04 zzzz A05 guru A0B
  zzzz A0F guru A11 zzzz A13 guru A29 zzzz A2A guru A31 zzzz A32 guru A34 zzzz A35 guru A37 zzzz
  A38 guru A3A zzzz A3C guru A3D zzzz A3E guru A43 zzzz A47 guru A49 zzzz A4B guru A4E zzzz A51
  guru A52 zzzz A59 guru A5D zzzz A5E guru A5F zzzz A66 guru A77 zzzz A81 gujr A84 zzzz A85 gujr
  A8E zzzz A8F gujr A92 zzzz A93 gujr AA9 zzzz AAA gujr AB1 zzzz AB2 gujr AB4 zzzz AB5 gujr ABA
  zzzz ABC gujr AC6 zzzz AC7 gujr ACA zzzz ACB gujr ACE zzzz AD0 gujr AD1 zzzz AE0 gujr AE4 zzzz
  AE6 gujr AF2 zzzz AF9 gujr B00 zzzz B01 orya B04 zzzz B05 orya B0D zzzz B0F orya B11 zzzz B13
  orya B29 zzzz B2A orya B31 zzzz B32 orya B34 zzzz B35 orya B3A zzzz B3C orya B45 zzzz B47 orya
  B49 zzzz B4B orya B4E zzzz B55 orya B58 zzzz B5C orya B5E zzzz B5F orya B64 zzzz B66 orya B78
  zzzz B82 taml B84 zzzz B85 taml B8B zzzz B8E taml B91 zzzz B92 taml B96 zzzz B99 taml B9B zzzz
  B9C taml B9D zzzz B9E taml BA0 zzzz BA3 taml BA5 zzzz BA8 taml BAB zzzz BAE taml BBA zzzz BBE
  taml BC3 zzzz BC6 taml BC9 zzzz BCA taml BCE zzzz BD0 taml BD1 zzzz BD7 taml BD8 zzzz BE6 taml
  BFB zzzz C00 telu C0D zzzz C0E telu C11 zzzz C12 telu C29 zzzz C2A telu C3A zzzz C3C telu C45
  zzzz C46 telu C49 zzzz C4A telu C4E zzzz C55 telu C57 zzzz C58 telu C5B zzzz C5D telu C5E zzzz
  C60 telu C64 zzzz C66 telu C70 zzzz C77 telu C80 knda C8D zzzz C8E knda C91 zzzz C92 knda CA9
  zzzz CAA knda CB4 zzzz CB5 knda CBA zzzz CBC knda CC5 zzzz CC6 knda CC9 zzzz CCA knda CCE zzzz
  CD5 knda CD7 zzzz CDD knda CDF zzzz CE0 knda CE4 zzzz CE6 knda CF0 zzzz CF1 knda CF4 zzzz D00
  mlym D0D zzzz D0E mlym D11 zzzz D12 mlym D45 zzzz D46 mlym D49 zzzz D4A mlym D50 zzzz D54 mlym
  D64 zzzz D66 mlym D80 zzzz D81 sinh D84 zzzz D85 sinh D97 zzzz D9A sinh DB2 zzzz DB3 sinh DBC
  zzzz DBD sinh DBE zzzz DC0 sinh DC7 zzzz DCA sinh DCB zzzz DCF sinh DD5 zzzz DD6 sinh DD7 zzzz
  DD8 sinh DE0 zzzz DE6 sinh DF0 zzzz DF2 sinh DF5 zzzz E01 thai E3B zzzz E3F zyyy E40 thai E5C
  zzzz E81 laoo E83 zzzz E84 laoo E85 zzzz E86 laoo E8B zzzz E8C laoo EA4 zzzz EA5 laoo EA6 zzzz
  EA7 laoo EBE zzzz EC0 laoo EC5 zzzz EC6 laoo EC7 zzzz EC8 laoo ECF zzzz ED0 laoo EDA zzzz EDC
  laoo EE0 zzzz F00 tibt F48 zzzz F49 tibt F6D zzzz F71 tibt F98 zzzz F99 tibt FBD zzzz FBE tibt
  FCD zzzz FCE tibt FD5 zyyy FD9 tibt FDB zzzz 1000 mymr 10A0 geor 10C6 zzzz 10C7 geor 10C8 zzzz
  10CD geor 10CE zzzz 10D0 geor 10FB zyyy 10FC geor 1100 hang 1200 ethi 1249 zzzz 124A ethi 124E
  zzzz 1250 ethi 1257 zzzz 1258 ethi 1259 zzzz 125A ethi 125E zzzz 1260 ethi 1289 zzzz 128A ethi
  128E zzzz 1290 ethi 12B1 zzzz 12B2 ethi 12B6 zzzz 12B8 ethi 12BF zzzz 12C0 ethi 12C1 zzzz 12C2
  ethi 12C6 zzzz 12C8 ethi 12D7 zzzz 12D8 ethi 1311 zzzz 1312 ethi 1316 zzzz 1318 ethi 135B zzzz
  135D ethi 137D zzzz 1380 ethi 139A zzzz 13A0 cher 13F6 zzzz 13F8 cher 13FE zzzz 1400 cans 1680
  ogam 169D zzzz 16A0 runr 16EB zyyy 16EE runr 16F9 zzzz 1700 tglg 1716 zzzz 171F tglg 1720 hano
  1735 zyyy 1737 zzzz 1740 buhd 1754 zzzz 1760 tagb 176D zzzz 176E tagb 1771 zzzz 1772 tagb 1774
  zzzz 1780 khmr 17DE zzzz 17E0 khmr 17EA zzzz 17F0 khmr 17FA zzzz 1800 mong 1802 zyyy 1804 mong
  1805 zyyy 1806 mong 181A zzzz 1820 mong 1879 zzzz 1880 mong 18AB zzzz 18B0 cans 18F6 zzzz 1900
  limb 191F zzzz 1920 limb 192C zzzz 1930 limb 193C zzzz 1940 limb 1941 zzzz 1944 limb 1950 tale
  196E zzzz 1970 tale 1975 zzzz 1980 talu 19AC zzzz 19B0 talu 19CA zzzz 19D0 talu 19DB zzzz 19DE
  talu 19E0 khmr 1A00 bugi 1A1C zzzz 1A1E bugi 1A20 lana 1A5F zzzz 1A60 lana 1A7D zzzz 1A7F lana
  1A8A zzzz 1A90 lana 1A9A zzzz 1AA0 lana 1AAE zzzz 1AB0 zinh 1ACF zzzz 1B00 bali 1B4D zzzz 1B4E
  bali 1B80 sund 1BC0 batk 1BF4 zzzz 1BFC batk 1C00 lepc 1C38 zzzz 1C3B lepc 1C4A zzzz 1C4D lepc
  1C50 olck 1C80 cyrl 1C8B zzzz 1C90 geor 1CBB zzzz 1CBD geor 1CC0 sund 1CC8 zzzz 1CD0 zinh 1CD3
  zyyy 1CD4 zinh 1CE1 zyyy 1CE2 zinh 1CE9 zyyy 1CED zinh 1CEE zyyy 1CF4 zinh 1CF5 zyyy 1CF8 zinh
  1CFA zyyy 1CFB zzzz 1D00 latn 1D26 grek 1D2B cyrl 1D2C latn 1D5D grek 1D62 latn 1D66 grek 1D6B
  latn 1D78 cyrl 1D79 latn 1DBF grek 1DC0 zinh 1E00 latn 1F00 grek 1F16 zzzz 1F18 grek 1F1E zzzz
  1F20 grek 1F46 zzzz 1F48 grek 1F4E zzzz 1F50 grek 1F58 zzzz 1F59 grek 1F5A zzzz 1F5B grek 1F5C
  zzzz 1F5D grek 1F5E zzzz 1F5F grek 1F7E zzzz 1F80 grek 1FB5 zzzz 1FB6 grek 1FC5 zzzz 1FC6 grek
  1FD4 zzzz 1FD6 grek 1FDC zzzz 1FDD grek 1FF0 zzzz 1FF2 grek 1FF5 zzzz 1FF6 grek 1FFF zzzz 2000
  zyyy 200C zinh 200E zyyy 2065 zzzz 2066 zyyy 2071 latn 2072 zzzz 2074 zyyy 207F latn 2080 zyyy
  208F zzzz 2090 latn 209D zzzz 20A0 zyyy 20C1 zzzz 20D0 zinh 20F1 zzzz 2100 zyyy 2126 grek 2127
  zyyy 212A latn 212C zyyy 2132 latn 2133 zyyy 214E latn 214F zyyy 2160 latn 2189 zyyy 218C zzzz
  2190 zyyy 242A zzzz 2440 zyyy 244B zzzz 2460 zyyy 2800 brai 2900 zyyy 2B74 zzzz 2B76 zyyy 2B96
  zzzz 2B97 zyyy 2C00 glag 2C60 latn 2C80 copt 2CF4 zzzz 2CF9 copt 2D00 geor 2D26 zzzz 2D27 geor
  2D28 zzzz 2D2D geor 2D2E zzzz 2D30 tfng 2D68 zzzz 2D6F tfng 2D71 zzzz 2D7F tfng 2D80 ethi 2D97
  zzzz 2DA0 ethi 2DA7 zzzz 2DA8 ethi 2DAF zzzz 2DB0 ethi 2DB7 zzzz 2DB8 ethi 2DBF zzzz 2DC0 ethi
  2DC7 zzzz 2DC8 ethi 2DCF zzzz 2DD0 ethi 2DD7 zzzz 2DD8 ethi 2DDF zzzz 2DE0 cyrl 2E00 zyyy 2E5E
  zzzz 2E80 hani 2E9A zzzz 2E9B hani 2EF4 zzzz 2F00 hani 2FD6 zzzz 2FF0 zyyy 3005 hani 3006 zyyy
  3007 hani 3008 zyyy 3021 hani 302A zinh 302E hang 3030 zyyy 3038 hani 303C zyyy 3040 zzzz 3041
  hira 3097 zzzz 3099 zinh 309B zyyy 309D hira 30A0 zyyy 30A1 kana 30FB zyyy 30FD kana 3100 zzzz
  3105 bopo 3130 zzzz 3131 hang 318F zzzz 3190 zyyy 31A0 bopo 31C0 zyyy 31E6 zzzz 31EF zyyy 31F0
  kana 3200 hang 321F zzzz 3220 zyyy 3260 hang 327F zyyy 32D0 kana 32FF zyyy 3300 kana 3358 zyyy
  3400 hani 4DC0 zyyy 4E00 hani A000 yiii A48D zzzz A490 yiii A4C7 zzzz A4D0 lisu A500 vaii A62C
  zzzz A640 cyrl A6A0 bamu A6F8 zzzz A700 zyyy A722 latn A788 zyyy A78B latn A7CE zzzz A7D0 latn
  A7D2 zzzz A7D3 latn A7D4 zzzz A7D5 latn A7DD zzzz A7F2 latn A800 sylo A82D zzzz A830 zyyy A83A
  zzzz A840 phag A878 zzzz A880 saur A8C6 zzzz A8CE saur A8DA zzzz A8E0 deva A900 kali A92E zyyy
  A92F kali A930 rjng A954 zzzz A95F rjng A960 hang A97D zzzz A980 java A9CE zzzz A9CF zyyy A9D0
  java A9DA zzzz A9DE java A9E0 mymr A9FF zzzz AA00 cham AA37 zzzz AA40 cham AA4E zzzz AA50 cham
  AA5A zzzz AA5C cham AA60 mymr AA80 tavt AAC3 zzzz AADB tavt AAE0 mtei AAF7 zzzz AB01 ethi AB07
  zzzz AB09 ethi AB0F zzzz AB11 ethi AB17 zzzz AB20 ethi AB27 zzzz AB28 ethi AB2F zzzz AB30 latn
  AB5B zyyy AB5C latn AB65 grek AB66 latn AB6A zyyy AB6C zzzz AB70 cher ABC0 mtei ABEE zzzz ABF0
  mtei ABFA zzzz AC00 hang D7A4 zzzz D7B0 hang D7C7 zzzz D7CB hang D7FC zzzz F900 hani FA6E zzzz
  FA70 hani FADA zzzz FB00 latn FB07 zzzz FB13 armn FB18 zzzz FB1D hebr FB37 zzzz FB38 hebr FB3D
  zzzz FB3E hebr FB3F zzzz FB40 hebr FB42 zzzz FB43 hebr FB45 zzzz FB46 hebr FB50 arab FBC3 zzzz
  FBD3 arab FD3E zyyy FD40 arab FD90 zzzz FD92 arab FDC8 zzzz FDCF arab FDD0 zzzz FDF0 arab FE00
  zinh FE10 zyyy FE1A zzzz FE20 zinh FE2E cyrl FE30 zyyy FE53 zzzz FE54 zyyy FE67 zzzz FE68 zyyy
  FE6C zzzz FE70 arab FE75 zzzz FE76 arab FEFD zzzz FEFF zyyy FF00 zzzz FF01 zyyy FF21 latn FF3B
  zyyy FF41 latn FF5B zyyy FF66 kana FF70 zyyy FF71 kana FF9E zyyy FFA0 hang FFBF zzzz FFC2 hang
  FFC8 zzzz FFCA hang FFD0 zzzz FFD2 hang FFD8 zzzz FFDA hang FFDD zzzz FFE0 zyyy FFE7 zzzz FFE8
  zyyy FFEF zzzz FFF9 zyyy FFFE zzzz 10000 linb 1000C zzzz 1000D linb 10027 zzzz 10028 linb 1003B
  zzzz 1003C linb 1003E zzzz 1003F linb 1004E zzzz 10050 linb 1005E zzzz 10080 linb 100FB zzzz
  10100 zyyy 10103 zzzz 10107 zyyy 10134 zzzz 10137 zyyy 10140 grek 1018F zzzz 10190 zyyy 1019D
  zzzz 101A0 grek 101A1 zzzz 101D0 zyyy 101FD zinh 101FE zzzz 10280 lyci 1029D zzzz 102A0 cari
  102D1 zzzz 102E0 zinh 102E1 zyyy 102FC zzzz 10300 ital 10324 zzzz 1032D ital 10330 goth 1034B
  zzzz 10350 perm 1037B zzzz 10380 ugar 1039E zzzz 1039F ugar 103A0 xpeo 103C4 zzzz 103C8 xpeo
  103D6 zzzz 10400 dsrt 10450 shaw 10480 osma 1049E zzzz 104A0 osma 104AA zzzz 104B0 osge 104D4
  zzzz 104D8 osge 104FC zzzz 10500 elba 10528 zzzz 10530 aghb 10564 zzzz 1056F aghb 10570 vith
  1057B zzzz 1057C vith 1058B zzzz 1058C vith 10593 zzzz 10594 vith 10596 zzzz 10597 vith 105A2
  zzzz 105A3 vith 105B2 zzzz 105B3 vith 105BA zzzz 105BB vith 105BD zzzz 105C0 todr 105F4 zzzz
  10600 lina 10737 zzzz 10740 lina 10756 zzzz 10760 lina 10768 zzzz 10780 latn 10786 zzzz 10787
  latn 107B1 zzzz 107B2 latn 107BB zzzz 10800 cprt 10806 zzzz 10808 cprt 10809 zzzz 1080A cprt
  10836 zzzz 10837 cprt 10839 zzzz 1083C cprt 1083D zzzz 1083F cprt 10840 armi 10856 zzzz 10857
  armi 10860 palm 10880 nbat 1089F zzzz 108A7 nbat 108B0 zzzz 108E0 hatr 108F3 zzzz 108F4 hatr
  108F6 zzzz 108FB hatr 10900 phnx 1091C zzzz 1091F phnx 10920 lydi 1093A zzzz 1093F lydi 10940
  zzzz 10980 mero 109A0 merc 109B8 zzzz 109BC merc 109D0 zzzz 109D2 merc 10A00 khar 10A04 zzzz
  10A05 khar 10A07 zzzz 10A0C khar 10A14 zzzz 10A15 khar 10A18 zzzz 10A19 khar 10A36 zzzz 10A38
  khar 10A3B zzzz 10A3F khar 10A49 zzzz 10A50 khar 10A59 zzzz 10A60 sarb 10A80 narb 10AA0 zzzz
  10AC0 mani 10AE7 zzzz 10AEB mani 10AF7 zzzz 10B00 avst 10B36 zzzz 10B39 avst 10B40 prti 10B56
  zzzz 10B58 prti 10B60 phli 10B73 zzzz 10B78 phli 10B80 phlp 10B92 zzzz 10B99 phlp 10B9D zzzz
  10BA9 phlp 10BB0 zzzz 10C00 orkh 10C49 zzzz 10C80 hung 10CB3 zzzz 10CC0 hung 10CF3 zzzz 10CFA
  hung 10D00 rohg 10D28 zzzz 10D30 rohg 10D3A zzzz 10D40 gara 10D66 zzzz 10D69 gara 10D86 zzzz
  10D8E gara 10D90 zzzz 10E60 arab 10E7F zzzz 10E80 yezi 10EAA zzzz 10EAB yezi 10EAE zzzz 10EB0
  yezi 10EB2 zzzz 10EC2 arab 10EC5 zzzz 10EFC arab 10F00 sogo 10F28 zzzz 10F30 sogd 10F5A zzzz
  10F70 ougr 10F8A zzzz 10FB0 chrs 10FCC zzzz 10FE0 elym 10FF7 zzzz 11000 brah 1104E zzzz 11052
  brah 11076 zzzz 1107F brah 11080 kthi 110C3 zzzz 110CD kthi 110CE zzzz 110D0 sora 110E9 zzzz
  110F0 sora 110FA zzzz 11100 cakm 11135 zzzz 11136 cakm 11148 zzzz 11150 mahj 11177 zzzz 11180
  shrd 111E0 zzzz 111E1 sinh 111F5 zzzz 11200 khoj 11212 zzzz 11213 khoj 11242 zzzz 11280 mult
  11287 zzzz 11288 mult 11289 zzzz 1128A mult 1128E zzzz 1128F mult 1129E zzzz 1129F mult 112AA
  zzzz 112B0 sind 112EB zzzz 112F0 sind 112FA zzzz 11300 gran 11304 zzzz 11305 gran 1130D zzzz
  1130F gran 11311 zzzz 11313 gran 11329 zzzz 1132A gran 11331 zzzz 11332 gran 11334 zzzz 11335
  gran 1133A zzzz 1133B zinh 1133C gran 11345 zzzz 11347 gran 11349 zzzz 1134B gran 1134E zzzz
  11350 gran 11351 zzzz 11357 gran 11358 zzzz 1135D gran 11364 zzzz 11366 gran 1136D zzzz 11370
  gran 11375 zzzz 11380 tutg 1138A zzzz 1138B tutg 1138C zzzz 1138E tutg 1138F zzzz 11390 tutg
  113B6 zzzz 113B7 tutg 113C1 zzzz 113C2 tutg 113C3 zzzz 113C5 tutg 113C6 zzzz 113C7 tutg 113CB
  zzzz 113CC tutg 113D6 zzzz 113D7 tutg 113D9 zzzz 113E1 tutg 113E3 zzzz 11400 newa 1145C zzzz
  1145D newa 11462 zzzz 11480 tirh 114C8 zzzz 114D0 tirh 114DA zzzz 11580 sidd 115B6 zzzz 115B8
  sidd 115DE zzzz 11600 modi 11645 zzzz 11650 modi 1165A zzzz 11660 mong 1166D zzzz 11680 takr
  116BA zzzz 116C0 takr 116CA zzzz 116D0 mymr 116E4 zzzz 11700 ahom 1171B zzzz 1171D ahom 1172C
  zzzz 11730 ahom 11747 zzzz 11800 dogr 1183C zzzz 118A0 wara 118F3 zzzz 118FF wara 11900 diak
  11907 zzzz 11909 diak 1190A zzzz 1190C diak 11914 zzzz 11915 diak 11917 zzzz 11918 diak 11936
  zzzz 11937 diak 11939 zzzz 1193B diak 11947 zzzz 11950 diak 1195A zzzz 119A0 nand 119A8 zzzz
  119AA nand 119D8 zzzz 119DA nand 119E5 zzzz 11A00 zanb 11A48 zzzz 11A50 soyo 11AA3 zzzz 11AB0
  cans 11AC0 pauc 11AF9 zzzz 11B00 deva 11B0A zzzz 11BC0 sunu 11BE2 zzzz 11BF0 sunu 11BFA zzzz
  11C00 bhks 11C09 zzzz 11C0A bhks 11C37 zzzz 11C38 bhks 11C46 zzzz 11C50 bhks 11C6D zzzz 11C70
  marc 11C90 zzzz 11C92 marc 11CA8 zzzz 11CA9 marc 11CB7 zzzz 11D00 gonm 11D07 zzzz 11D08 gonm
  11D0A zzzz 11D0B gonm 11D37 zzzz 11D3A gonm 11D3B zzzz 11D3C gonm 11D3E zzzz 11D3F gonm 11D48
  zzzz 11D50 gonm 11D5A zzzz 11D60 gong 11D66 zzzz 11D67 gong 11D69 zzzz 11D6A gong 11D8F zzzz
  11D90 gong 11D92 zzzz 11D93 gong 11D99 zzzz 11DA0 gong 11DAA zzzz 11EE0 maka 11EF9 zzzz 11F00
  kawi 11F11 zzzz 11F12 kawi 11F3B zzzz 11F3E kawi 11F5B zzzz 11FB0 lisu 11FB1 zzzz 11FC0 taml
  11FF2 zzzz 11FFF taml 12000 xsux 1239A zzzz 12400 xsux 1246F zzzz 12470 xsux 12475 zzzz 12480
  xsux 12544 zzzz 12F90 cpmn 12FF3 zzzz 13000 egyp 13456 zzzz 13460 egyp 143FB zzzz 14400 hluw
  14647 zzzz 16100 gukh 1613A zzzz 16800 bamu 16A39 zzzz 16A40 mroo 16A5F zzzz 16A60 mroo 16A6A
  zzzz 16A6E mroo 16A70 tnsa 16ABF zzzz 16AC0 tnsa 16ACA zzzz 16AD0 bass 16AEE zzzz 16AF0 bass
  16AF6 zzzz 16B00 hmng 16B46 zzzz 16B50 hmng 16B5A zzzz 16B5B hmng 16B62 zzzz 16B63 hmng 16B78
  zzzz 16B7D hmng 16B90 zzzz 16D40 krai 16D7A zzzz 16E40 medf 16E9B zzzz 16F00 plrd 16F4B zzzz
  16F4F plrd 16F88 zzzz 16F8F plrd 16FA0 zzzz 16FE0 tang 16FE1 nshu 16FE2 hani 16FE4 kits 16FE5
  zzzz 16FF0 hani 16FF2 zzzz 17000 tang 187F8 zzzz 18800 tang 18B00 kits 18CD6 zzzz 18CFF kits
  18D00 tang 18D09 zzzz 1AFF0 kana 1AFF4 zzzz 1AFF5 kana 1AFFC zzzz 1AFFD kana 1AFFF zzzz 1B000
  kana 1B001 hira 1B120 kana 1B123 zzzz 1B132 hira 1B133 zzzz 1B150 hira 1B153 zzzz 1B155 kana
  1B156 zzzz 1B164 kana 1B168 zzzz 1B170 nshu 1B2FC zzzz 1BC00 dupl 1BC6B zzzz 1BC70 dupl 1BC7D
  zzzz 1BC80 dupl 1BC89 zzzz 1BC90 dupl 1BC9A zzzz 1BC9C dupl 1BCA0 zyyy 1BCA4 zzzz 1CC00 zyyy
  1CCFA zzzz 1CD00 zyyy 1CEB4 zzzz 1CF00 zinh 1CF2E zzzz 1CF30 zinh 1CF47 zzzz 1CF50 zyyy 1CFC4
  zzzz 1D000 zyyy 1D0F6 zzzz 1D100 zyyy 1D127 zzzz 1D129 zyyy 1D167 zinh 1D16A zyyy 1D17B zinh
  1D183 zyyy 1D185 zinh 1D18C zyyy 1D1AA zinh 1D1AE zyyy 1D1EB zzzz 1D200 grek 1D246 zzzz 1D2C0
  zyyy 1D2D4 zzzz 1D2E0 zyyy 1D2F4 zzzz 1D300 zyyy 1D357 zzzz 1D360 zyyy 1D379 zzzz 1D400 zyyy
  1D455 zzzz 1D456 zyyy 1D49D zzzz 1D49E zyyy 1D4A0 zzzz 1D4A2 zyyy 1D4A3 zzzz 1D4A5 zyyy 1D4A7
  zzzz 1D4A9 zyyy 1D4AD zzzz 1D4AE zyyy 1D4BA zzzz 1D4BB zyyy 1D4BC zzzz 1D4BD zyyy 1D4C4 zzzz
  1D4C5 zyyy 1D506 zzzz 1D507 zyyy 1D50B zzzz 1D50D zyyy 1D515 zzzz 1D516 zyyy 1D51D zzzz 1D51E
  zyyy 1D53A zzzz 1D53B zyyy 1D53F zzzz 1D540 zyyy 1D545 zzzz 1D546 zyyy 1D547 zzzz 1D54A zyyy
  1D551 zzzz 1D552 zyyy 1D6A6 zzzz 1D6A8 zyyy 1D7CC zzzz 1D7CE zyyy 1D800 sgnw 1DA8C zzzz 1DA9B
  sgnw 1DAA0 zzzz 1DAA1 sgnw 1DAB0 zzzz 1DF00 latn 1DF1F zzzz 1DF25 latn 1DF2B zzzz 1E000 glag
  1E007 zzzz 1E008 glag 1E019 zzzz 1E01B glag 1E022 zzzz 1E023 glag 1E025 zzzz 1E026 glag 1E02B
  zzzz 1E030 cyrl 1E06E zzzz 1E08F cyrl 1E090 zzzz 1E100 hmnp 1E12D zzzz 1E130 hmnp 1E13E zzzz
  1E140 hmnp 1E14A zzzz 1E14E hmnp 1E150 zzzz 1E290 toto 1E2AF zzzz 1E2C0 wcho 1E2FA zzzz 1E2FF
  wcho 1E300 zzzz 1E4D0 nagm 1E4FA zzzz 1E5D0 onao 1E5FB zzzz 1E5FF onao 1E600 zzzz 1E7E0 ethi
  1E7E7 zzzz 1E7E8 ethi 1E7EC zzzz 1E7ED ethi 1E7EF zzzz 1E7F0 ethi 1E7FF zzzz 1E800 mend 1E8C5
  zzzz 1E8C7 mend 1E8D7 zzzz 1E900 adlm 1E94C zzzz 1E950 adlm 1E95A zzzz 1E95E adlm 1E960 zzzz
  1EC71 zyyy 1ECB5 zzzz 1ED01 zyyy 1ED3E zzzz 1EE00 arab 1EE04 zzzz 1EE05 arab 1EE20 zzzz 1EE21
  arab 1EE23 zzzz 1EE24 arab 1EE25 zzzz 1EE27 arab 1EE28 zzzz 1EE29 arab 1EE33 zzzz 1EE34 arab
  1EE38 zzzz 1EE39 arab 1EE3A zzzz 1EE3B arab 1EE3C zzzz 1EE42 arab 1EE43 zzzz 1EE47 arab 1EE48
  zzzz 1EE49 arab 1EE4A zzzz 1EE4B arab 1EE4C zzzz 1EE4D arab 1EE50 zzzz 1EE51 arab 1EE53 zzzz
  1EE54 arab 1EE55 zzzz 1EE57 arab 1EE58 zzzz 1EE59 arab 1EE5A zzzz 1EE5B arab 1EE5C zzzz 1EE5D
  arab 1EE5E zzzz 1EE5F arab 1EE60 zzzz 1EE61 arab 1EE63 zzzz 1EE64 arab 1EE65 zzzz 1EE67 arab
  1EE6B zzzz 1EE6C arab 1EE73 zzzz 1EE74 arab 1EE78 zzzz 1EE79 arab 1EE7D zzzz 1EE7E arab 1EE7F
  zzzz 1EE80 arab 1EE8A zzzz 1EE8B arab 1EE9C zzzz 1EEA1 arab 1EEA4 zzzz 1EEA5 arab 1EEAA zzzz
  1EEAB arab 1EEBC zzzz 1EEF0 arab 1EEF2 zzzz 1F000 zyyy 1F02C zzzz 1F030 zyyy 1F094 zzzz 1F0A0
  zyyy 1F0AF zzzz 1F0B1 zyyy 1F0C0 zzzz 1F0C1 zyyy 1F0D0 zzzz 1F0D1 zyyy 1F0F6 zzzz 1F100 zyyy
  1F1AE zzzz 1F1E6 zyyy 1F200 hira 1F201 zyyy 1F203 zzzz 1F210 zyyy 1F23C zzzz 1F240 zyyy 1F249
  zzzz 1F250 zyyy 1F252 zzzz 1F260 zyyy 1F266 zzzz 1F300 zyyy 1F6D8 zzzz 1F6DC zyyy 1F6ED zzzz
  1F6F0 zyyy 1F6FD zzzz 1F700 zyyy 1F777 zzzz 1F77B zyyy 1F7DA zzzz 1F7E0 zyyy 1F7EC zzzz 1F7F0
  zyyy 1F7F1 zzzz 1F800 zyyy 1F80C zzzz 1F810 zyyy 1F848 zzzz 1F850 zyyy 1F85A zzzz 1F860 zyyy
  1F888 zzzz 1F890 zyyy 1F8AE zzzz 1F8B0 zyyy 1F8BC zzzz 1F8C0 zyyy 1F8C2 zzzz 1F900 zyyy 1FA54
  zzzz 1FA60 zyyy 1FA6E zzzz 1FA70 zyyy 1FA7D zzzz 1FA80 zyyy 1FA8A zzzz 1FA8F zyyy 1FAC7 zzzz
  1FACE zyyy 1FADD zzzz 1FADF zyyy 1FAEA zzzz 1FAF0 zyyy 1FAF9 zzzz 1FB00 zyyy 1FB93 zzzz 1FB94
  zyyy 1FBFA zzzz 20000 hani 2A6E0 zzzz 2A700 hani 2B73A zzzz 2B740 hani 2B81E zzzz 2B820 hani
  2CEA2 zzzz 2CEB0 hani 2EBE1 zzzz 2EBF0 hani 2EE5E zzzz 2F800 hani 2FA1E zzzz 30000 hani 3134B
  zzzz 31350 hani 323B0 zzzz E0001 zyyy E0002 zzzz E0020 zyyy E0080 zzzz E0100 zinh E01F0 zzzz"

/-- The script of a code point. -/
def scriptOf (c : Nat) : Script :=
  (scriptRuns.get? c).getD ⟨"zzzz"⟩

/-- The runs of equal script extensions; a dash stands for none. -/
def scriptExtensionRuns : RunMap (List Script) :=
  RunMap.ofText (fun name => if name == "-" then [] else (name.splitOn "+").map Script.mk)
  "0 - 342 grek 343 - 345 grek 346 - 363 latn 370 - 483 cyrl+perm 484 cyrl+glag 485 cyrl+latn 487
  cyrl+glag 488 - 60C arab+nkoo+rohg+syrc+thaa+yezi 60D - 61B arab+nkoo+rohg+syrc+thaa+yezi 61C
  arab+syrc+thaa 61D - 61F adlm+arab+nkoo+rohg+syrc+thaa+yezi 620 - 640
  adlm+arab+mand+mani+ougr+phlp+rohg+sogd+syrc 641 - 64B arab+syrc 656 - 660 arab+thaa+yezi 66A -
  670 arab+syrc 671 - 6D4 arab+rohg 6D5 - 951
  beng+deva+gran+gujr+guru+knda+latn+mlym+orya+shrd+taml+telu+tirh 952
  beng+deva+gran+gujr+guru+knda+latn+mlym+orya+taml+telu+tirh 953 - 964
  beng+deva+dogr+gong+gonm+gran+gujr+guru+knda+mahj+mlym+nand+orya+sind+sinh+sylo+takr+taml+telu+tirh
  965
  beng+deva+dogr+gong+gonm+gran+gujr+guru+knda+limb+mahj+mlym+nand+orya+sind+sinh+sylo+takr+taml+telu+tirh
  966 deva+dogr+kthi+mahj 970 - 9E6 beng+cakm+sylo 9F0 - A66 guru+mult A70 - AE6 gujr+khoj AF0 -
  BE6 gran+taml BF4 - CE6 knda+nand CF0 - 1040 cakm+mymr+tale 104A - 10FB geor+latn 10FC - 1735
  buhd+hano+tagb+tglg 1737 - 1802 mong+phag 1804 - 1805 mong+phag 1806 - 1CD0 beng+deva+gran+knda
  1CD1 deva 1CD2 beng+deva+gran+knda 1CD3 deva+gran 1CD4 deva 1CD5 beng+deva 1CD7 deva+shrd 1CD8
  beng+deva 1CD9 deva+shrd 1CDA deva+knda+mlym+orya+taml+telu 1CDB deva 1CDC deva+shrd 1CDE deva
  1CE0 deva+shrd 1CE1 beng+deva 1CE2 deva 1CE9 deva+nand 1CEA beng+deva 1CEB deva 1CED beng+deva
  1CEE deva 1CF2 beng+deva+gran+knda+nand+orya+telu+tirh 1CF3 deva+gran 1CF4 deva+gran+knda 1CF5
  beng+deva 1CF7 beng 1CF8 deva+gran 1CFA nand 1CFB - 1DC0 grek 1DC2 - 1DF8 cyrl+syrc 1DF9 - 1DFA
  syrc 1DFB - 202F latn+mong 2030 - 20F0 deva+gran+latn 20F1 - 2E43 cyrl+glag 2E44 - 3001
  bopo+hang+hani+hira+kana+yiii 3003 bopo+hang+hani+hira+kana 3004 - 3006 hani 3007 - 3008
  bopo+hang+hani+hira+kana+yiii 3012 - 3013 bopo+hang+hani+hira+kana 3014
  bopo+hang+hani+hira+kana+yiii 301C bopo+hang+hani+hira+kana 3020 - 302A bopo+hani 302E - 3030
  bopo+hang+hani+hira+kana 3031 hira+kana 3036 - 3037 bopo+hang+hani+hira+kana 3038 - 303C
  hani+hira+kana 303E hani 3040 - 3099 hira+kana 309D - 30A0 hira+kana 30A1 - 30FB
  bopo+hang+hani+hira+kana+yiii 30FC hira+kana 30FD - 3190 hani 31A0 - 31C0 hani 31E4 - 3220 hani
  3248 - 3280 hani 32B1 - 32C0 hani 32CC - 32FF hani 3300 - 3358 hani 3371 - 337B hani 3380 - 33E0
  hani 33FF - A66F cyrl+glag A670 - A700 hani+latn A708 - A830
  deva+dogr+gujr+guru+khoj+knda+kthi+mahj+mlym+modi+nand+sind+takr+tirh A833
  deva+dogr+gujr+guru+khoj+knda+kthi+mahj+modi+nand+sind+takr+tirh A836
  deva+dogr+gujr+guru+khoj+kthi+mahj+modi+sind+takr+tirh A83A - A8F1 beng+deva A8F2 - A8F3
  deva+taml A8F4 - A92E kali+latn+mymr A92F - A9CF bugi+java A9D0 - FD3E arab+nkoo FD40 - FDF2
  arab+thaa FDF3 - FDFD arab+thaa FDFE - FE45 bopo+hang+hani+hira+kana FE47 - FF61
  bopo+hang+hani+hira+kana+yiii FF66 - FF70 hira+kana FF71 - FF9E hira+kana FFA0 - 10100
  cpmn+cprt+linb 10102 cprt+linb 10103 - 10107 cprt+lina+linb 10134 - 10137 cprt+linb 10140 -
  102E0 arab+copt 102FC - 10AF2 mani+ougr 10AF3 - 11301 gran+taml 11302 - 11303 gran+taml 11304 -
  1133B gran+taml 1133D - 11FD0 gran+taml 11FD2 - 11FD3 gran+taml 11FD4 - 1BCA0 dupl 1BCA4 - 1D360
  hani 1D372 - 1F250 hani 1F252 -"

/-- The scripts that a code point lists as extensions; none if it has only its own. -/
def scriptExtensions (c : Nat) : List Script :=
  (scriptExtensionRuns.get? c).getD []

end BoundedRegex.Unicode
