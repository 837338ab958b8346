import ReceiptRules.Text.CharacterName.Naming

/-!
# Names of characters of old scripts

The characters from 0x10000 to 0x11fff: letters and syllables of scripts that are hardly written any
more.
-/

namespace ReceiptRules.Text.CharacterName

def ancient : List Family := [
  ⟨"LINEAR B SYLLABLE ", [
    (0x10000, "B008 A;B038 E;B028 I;B061 O;B010 U;B001 DA;B045 DE;B007 DI;B014 DO;B051 DU"),
    (0x1000a, "B057 JA;B046 JE;;B036 JO;B065 JU;B077 KA;B044 KE;B067 KI;B070 KO;B081 KU;B080 MA"),
    (0x10015, "B013 ME;B073 MI;B015 MO;B023 MU;B006 NA;B024 NE;B030 NI;B052 NO;B055 NU;B003 PA"),
    (0x1001f, "B072 PE;B039 PI;B011 PO;B050 PU;B016 QA;B078 QE;B021 QI;B032 QO;;B060 RA;B027 RE"),
    (0x1002a, "B053 RI;B002 RO;B026 RU;B031 SA;B009 SE;B041 SI;B012 SO;B058 SU;B059 TA;B004 TE"),
    (0x10034, "B037 TI;B005 TO;B069 TU;B054 WA;B075 WE;B040 WI;B042 WO;;B017 ZA;B074 ZE"),
    (0x1003f, "B020 ZO;B025 A2;B043 A3;B085 AU;B071 DWE;B090 DWO;B048 NWA;B029 PU2;B062 PTE"),
    (0x10048, "B076 RA2;B033 RA3;B068 RO2;B066 TA2;B087 TWE;B091 TWO")]⟩,
  ⟨"LINEAR B SYMBOL ", [
    (0x10050, "B018;B019;B022;B034;B047;B049;B056;B063;B064;B079;B082;B083;B086;B089")]⟩,
  ⟨"LINEAR B IDEOGRAM ", [
    (0x10080, "B100 MAN;B102 WOMAN;B104 DEER;B105 EQUID;B105F MARE;B105M STALLION;B106F EWE"),
    (0x10087, "B106M RAM;B107F SHE-GOAT;B107M HE-GOAT;B108F SOW;B108M BOAR;B109F COW;B109M BULL"),
    (0x1008e, "B120 WHEAT;B121 BARLEY;B122 OLIVE;B123 SPICE;B125 CYPERUS;;;B130 OIL;B131 WINE"),
    (0x10097, "B132;;;B140 BRONZE;B141 GOLD;B142;B145 WOOL;B146;B150;B151 HORN;B152;B153;B154"),
    (0x100a5, "B157;B158;B159 CLOTH;B160;B161;B162 GARMENT;B163 ARMOUR;B164;B165;B166;B167;B168"),
    (0x100b1, "B169;B170;B171;B172;B173 MONTH;B174;B176 TREE;B177;B178;B179;B180;B181;B182;B183"),
    (0x100bf, "B184;B185;B189;B190;B191 HELMET;B220 FOOTSTOOL;B225 BATHTUB;B230 SPEAR"),
    (0x100c7, "B231 ARROW;B232;B233 SWORD;B234;B236;B240 WHEELED CHARIOT;B241 CHARIOT"),
    (0x100ce, "B242 CHARIOT FRAME;B243 WHEEL;B245;B246;;B248;B249;B251;B252;B253;B254 DART;B255"),
    (0x100da, "B256;B257;B258;B259")]⟩,
  ⟨"LINEAR B MONOGRAM ", [
    (0x10093, "B127 KAPO;B128 KANAKO;;;;B133 AREPA;B135 MERI"), (0x100a4, "B156 TURO2"),
    (0x100d2, "B247 DIPTE")]⟩,
  ⟨"LINEAR B IDEOGRAM VESSEL ", [
    (0x100de, "B155;B200;B201;B202;B203;B204;B205;B206;B207;B208;B209;B210;B211;B212;B213;B214"),
    (0x100ee, "B215;B216;B217;B218;B219;B221;B222;B226;B227;B228;B229;B250;B305")]⟩,
  ⟨"AEGEAN ", [
    (0x10100, "WORD SEPARATOR LINE;WORD SEPARATOR DOT;CHECK MARK"),
    (0x1013c, "DRY MEASURE FIRST SUBUNIT;LIQUID MEASURE FIRST SUBUNIT;MEASURE SECOND SUBUNIT"),
    (0x1013f, "MEASURE THIRD SUBUNIT")]⟩,
  ⟨"AEGEAN NUMBER ", [
    (0x10107, "ONE;TWO;THREE;FOUR;FIVE;SIX;SEVEN;EIGHT;NINE;TEN;TWENTY;THIRTY;FORTY;FIFTY;SIXTY"),
    (0x10116, "SEVENTY;EIGHTY;NINETY;ONE HUNDRED;TWO HUNDRED;THREE HUNDRED;FOUR HUNDRED"),
    (0x1011d, "FIVE HUNDRED;SIX HUNDRED;SEVEN HUNDRED;EIGHT HUNDRED;NINE HUNDRED;ONE THOUSAND"),
    (0x10123, "TWO THOUSAND;THREE THOUSAND;FOUR THOUSAND;FIVE THOUSAND;SIX THOUSAND"),
    (0x10128, "SEVEN THOUSAND;EIGHT THOUSAND;NINE THOUSAND;TEN THOUSAND;TWENTY THOUSAND"),
    (0x1012d, "THIRTY THOUSAND;FORTY THOUSAND;FIFTY THOUSAND;SIXTY THOUSAND;SEVENTY THOUSAND"),
    (0x10132, "EIGHTY THOUSAND;NINETY THOUSAND")]⟩,
  ⟨"AEGEAN WEIGHT ", [
    (0x10137, "BASE UNIT;FIRST SUBUNIT;SECOND SUBUNIT;THIRD SUBUNIT;FOURTH SUBUNIT")]⟩,
  ⟨"GREEK ACROPHONIC ATTIC ", [
    (0x10140, "ONE QUARTER;ONE HALF;ONE DRACHMA;FIVE;FIFTY;FIVE HUNDRED;FIVE THOUSAND"),
    (0x10147, "FIFTY THOUSAND;FIVE TALENTS;TEN TALENTS;FIFTY TALENTS;ONE HUNDRED TALENTS"),
    (0x1014c, "FIVE HUNDRED TALENTS;ONE THOUSAND TALENTS;FIVE THOUSAND TALENTS;FIVE STATERS"),
    (0x10150, "TEN STATERS;FIFTY STATERS;ONE HUNDRED STATERS;FIVE HUNDRED STATERS"),
    (0x10154, "ONE THOUSAND STATERS;TEN THOUSAND STATERS;FIFTY THOUSAND STATERS;TEN MNAS")]⟩,
  ⟨"GREEK ACROPHONIC ", [
    (0x10158, "HERAEUM ONE PLETHRON;;HERMIONIAN ONE;EPIDAUREAN TWO;;CYRENAIC TWO DRACHMAS"),
    (0x1015e, "EPIDAUREAN TWO DRACHMAS;;;;HERMIONIAN TEN;MESSENIAN TEN;;;;;HERMIONIAN FIFTY"),
    (0x1016c, "EPIDAUREAN FIVE HUNDRED;;;CARYSTIAN FIVE HUNDRED;NAXIAN FIVE HUNDRED"),
    (0x10173, "DELPHIC FIVE MNAS;STRATIAN FIFTY MNAS")]⟩,
  ⟨"GREEK ACROPHONIC THESPIAN ", [
    (0x10159, "ONE;;;TWO;;;;;;;;TEN;THIRTY;;;;FIFTY;ONE HUNDRED;THREE HUNDRED;;;FIVE HUNDRED"),
    (0x10171, "ONE THOUSAND;FIVE THOUSAND")]⟩,
  ⟨"GREEK ACROPHONIC TROEZENIAN ", [
    (0x1015f, "FIVE;TEN;TEN ALTERNATE FORM;;;;;FIFTY;FIFTY ALTERNATE FORM;;;;;;FIVE HUNDRED")]⟩,
  ⟨"GREEK ", [
    (0x10175, "ONE HALF SIGN;ONE HALF SIGN ALTERNATE FORM;TWO THIRDS SIGN;THREE QUARTERS SIGN"),
    (0x10179, "YEAR SIGN;TALENT SIGN;DRACHMA SIGN;OBOL SIGN;TWO OBOLS SIGN;THREE OBOLS SIGN"),
    (0x1017f, "FOUR OBOLS SIGN;FIVE OBOLS SIGN;METRETES SIGN;KYATHOS BASE SIGN;LITRA SIGN"),
    (0x10184, "OUNKIA SIGN;XESTES SIGN;ARTABE SIGN;AROURA SIGN;GRAMMA SIGN;TRYBLION BASE SIGN"),
    (0x1018a, "ZERO SIGN;ONE QUARTER SIGN;SINUSOID SIGN;INDICTION SIGN"),
    (0x101a0, "SYMBOL TAU RHO")]⟩,
  ⟨"", [
    (0x1018e, "NOMISMA SIGN"), (0x1019c, "ASCIA SYMBOL"),
    (0x10b3a, "TINY TWO DOTS OVER ONE DOT PUNCTUATION;SMALL TWO DOTS OVER ONE DOT PUNCTUATION"),
    (0x11fb0, "LISU LETTER YHA")]⟩,
  ⟨"ROMAN ", [
    (0x10190, "SEXTANS SIGN;UNCIA SIGN;SEMUNCIA SIGN;SEXTULA SIGN;DIMIDIA SEXTULA SIGN"),
    (0x10195, "SILIQUA SIGN;DENARIUS SIGN;QUINARIUS SIGN;SESTERTIUS SIGN;DUPONDIUS SIGN;AS SIGN"),
    (0x1019b, "CENTURIAL SIGN")]⟩,
  ⟨"PHAISTOS DISC SIGN ", [
    (0x101d0, "PEDESTRIAN;PLUMED HEAD;TATTOOED HEAD;CAPTIVE;CHILD;WOMAN;HELMET;GAUNTLET;TIARA"),
    (0x101d9, "ARROW;BOW;SHIELD;CLUB;MANACLES;MATTOCK;SAW;LID;BOOMERANG;CARPENTRY PLANE;DOLIUM"),
    (0x101e4, "COMB;SLING;COLUMN;BEEHIVE;SHIP;HORN;HIDE;BULLS LEG;CAT;RAM;EAGLE;DOVE;TUNNY;BEE"),
    (0x101f2, "PLANE TREE;VINE;PAPYRUS;ROSETTE;LILY;OX BACK;FLUTE;GRATER;STRAINER;SMALL AXE"),
    (0x101fc, "WAVY BAND;COMBINING OBLIQUE STROKE")]⟩,
  ⟨"LYCIAN LETTER ", [
    (0x10280, "A;E;B;BH;G;D;I;W;Z;TH;J;K;Q;L;M;N;MM;NN;U;P;KK;R;S;T;TT;AN;EN;H;X")]⟩,
  ⟨"CARIAN LETTER ", [
    (0x102a0, "A;P2;D;L;UUU;R;LD;A2;Q;B;M;O;D2;T;SH;SH2;S;C-18;U;NN;X;N;TT2;P;SS;I;E;UUUU;K;K2"),
    (0x102be, "ND;UU;G;G2;ST;ST2;NG;II;C-39;TT;UUU2;RR;MB;MB2;MB3;MB4;LD2;E2;UUU3")]⟩,
  ⟨"COPTIC EPACT ", [(0x102e0, "THOUSANDS MARK")]⟩,
  ⟨"COPTIC EPACT DIGIT ", [(0x102e1, "ONE;TWO;THREE;FOUR;FIVE;SIX;SEVEN;EIGHT;NINE")]⟩,
  ⟨"COPTIC EPACT NUMBER ", [
    (0x102ea, "TEN;TWENTY;THIRTY;FORTY;FIFTY;SIXTY;SEVENTY;EIGHTY;NINETY;ONE HUNDRED"),
    (0x102f4, "TWO HUNDRED;THREE HUNDRED;FOUR HUNDRED;FIVE HUNDRED;SIX HUNDRED;SEVEN HUNDRED"),
    (0x102fa, "EIGHT HUNDRED;NINE HUNDRED")]⟩,
  ⟨"OLD ITALIC LETTER ", [
    (0x10300, "A;BE;KE;DE;E;VE;ZE;HE;THE;I;KA;EL;EM;EN;ESH;O;PE;SHE;KU;ER;ES;TE;U;EKS;PHE;KHE"),
    (0x1031a, "EF;ERS;CHE;II;UU;ESS"), (0x1032d, "YE;NORTHERN TSE;SOUTHERN TSE")]⟩,
  ⟨"OLD ITALIC NUMERAL ", [(0x10320, "ONE;FIVE;TEN;FIFTY")]⟩,
  ⟨"GOTHIC LETTER ", [
    (0x10330, "AHSA;BAIRKAN;GIBA;DAGS;AIHVUS;QAIRTHRA;IUJA;HAGL;THIUTH;EIS;KUSMA;LAGUS;MANNA"),
    (0x1033d, "NAUTHS;JER;URUS;PAIRTHRA;NINETY;RAIDA;SAUIL;TEIWS;WINJA;FAIHU;IGGWS;HWAIR;OTHAL"),
    (0x1034a, "NINE HUNDRED")]⟩,
  ⟨"OLD PERMIC LETTER ", [
    (0x10350, "AN;BUR;GAI;DOI;E;ZHOI;DZHOI;ZATA;DZITA;I;KOKE;LEI;MENOE;NENOE;VOOI;PEEI;REI;SII"),
    (0x10362, "TAI;U;CHERY;SHOOI;SHCHOOI;YRY;YERU;O;OO;EF;HA;TSIU;VER;YER;YERI;YAT;IE;YU;YA;IA")]⟩,
  ⟨"COMBINING OLD PERMIC ", [
    (0x10376, "LETTER AN;LETTER DOI;LETTER ZATA;LETTER NENOE;LETTER SII")]⟩,
  ⟨"UGARITIC LETTER ", [
    (0x10380, "ALPA;BETA;GAMLA;KHA;DELTA;HO;WO;ZETA;HOTA;TET;YOD;KAF;SHIN;LAMDA;MEM;DHAL;NUN;ZU"),
    (0x10392, "SAMKA;AIN;PU;SADE;QOPA;RASHA;THANNA;GHAIN;TO;I;U;SSU")]⟩,
  ⟨"UGARITIC ", [(0x1039f, "WORD DIVIDER")]⟩,
  ⟨"OLD PERSIAN SIGN ", [
    (0x103a0, "A;I;U;KA;KU;GA;GU;XA;CA;JA;JI;TA;TU;DA;DI;DU;THA;PA;BA;FA;NA;NU;MA;MI;MU;YA;VA"),
    (0x103bb, "VI;RA;RU;LA;SA;ZA;SHA;SSA;HA;;;;;AURAMAZDAA;AURAMAZDAA-2;AURAMAZDAAHA"),
    (0x103cb, "XSHAAYATHIYA;DAHYAAUSH;DAHYAAUSH-2;BAGA;BUUMISH")]⟩,
  ⟨"OLD PERSIAN ", [(0x103d0, "WORD DIVIDER")]⟩,
  ⟨"OLD PERSIAN NUMBER ", [(0x103d1, "ONE;TWO;TEN;TWENTY;HUNDRED")]⟩,
  ⟨"DESERET CAPITAL LETTER ", [
    (0x10400, "LONG I;LONG E;LONG A;LONG AH;LONG O;LONG OO;SHORT I;SHORT E;SHORT A;SHORT AH"),
    (0x1040a, "SHORT O;SHORT OO;AY;OW;WU;YEE;H;PEE;BEE;TEE;DEE;CHEE;JEE;KAY;GAY;EF;VEE;ETH;THEE"),
    (0x1041d, "ES;ZEE;ESH;ZHEE;ER;EL;EM;EN;ENG;OI;EW")]⟩,
  ⟨"DESERET SMALL LETTER ", [
    (0x10428, "LONG I;LONG E;LONG A;LONG AH;LONG O;LONG OO;SHORT I;SHORT E;SHORT A;SHORT AH"),
    (0x10432, "SHORT O;SHORT OO;AY;OW;WU;YEE;H;PEE;BEE;TEE;DEE;CHEE;JEE;KAY;GAY;EF;VEE;ETH;THEE"),
    (0x10445, "ES;ZEE;ESH;ZHEE;ER;EL;EM;EN;ENG;OI;EW")]⟩,
  ⟨"SHAVIAN LETTER ", [
    (0x10450, "PEEP;TOT;KICK;FEE;THIGH;SO;SURE;CHURCH;YEA;HUNG;BIB;DEAD;GAG;VOW;THEY;ZOO"),
    (0x10460, "MEASURE;JUDGE;WOE;HA-HA;LOLL;MIME;IF;EGG;ASH;ADO;ON;WOOL;OUT;AH;ROAR;NUN;EAT;AGE"),
    (0x10472, "ICE;UP;OAK;OOZE;OIL;AWE;ARE;OR;AIR;ERR;ARRAY;EAR;IAN;YEW")]⟩,
  ⟨"OSMANYA LETTER ", [
    (0x10480, "ALEF;BA;TA;JA;XA;KHA;DEEL;RA;SA;SHIIN;DHA;CAYN;GA;FA;QAAF;KAAF;LAAN;MIIN;NUUN"),
    (0x10493, "WAW;HA;YA;A;E;I;O;U;AA;EE;OO")]⟩,
  ⟨"OSMANYA DIGIT ", [(0x104a0, "ZERO;ONE;TWO;THREE;FOUR;FIVE;SIX;SEVEN;EIGHT;NINE")]⟩,
  ⟨"OSAGE CAPITAL LETTER ", [
    (0x104b0, "A;AI;AIN;AH;BRA;CHA;EHCHA;E;EIN;HA;HYA;I;KA;EHKA;KYA;LA;MA;NA;O;OIN;PA;EHPA;SA"),
    (0x104c7, "SHA;TA;EHTA;TSA;EHTSA;TSHA;DHA;U;WA;KHA;GHA;ZA;ZHA")]⟩,
  ⟨"OSAGE SMALL LETTER ", [
    (0x104d8, "A;AI;AIN;AH;BRA;CHA;EHCHA;E;EIN;HA;HYA;I;KA;EHKA;KYA;LA;MA;NA;O;OIN;PA;EHPA;SA"),
    (0x104ef, "SHA;TA;EHTA;TSA;EHTSA;TSHA;DHA;U;WA;KHA;GHA;ZA;ZHA")]⟩,
  ⟨"ELBASAN LETTER ", [
    (0x10500, "A;BE;CE;CHE;DE;NDE;DHE;EI;E;FE;GE;GJE;HE;I;JE;KE;LE;LLE;ME;NE;NA;NJE;O;PE;QE;RE"),
    (0x1051a, "RRE;SE;SHE;TE;THE;U;VE;XE;Y;ZE;ZHE;GHE;GHAMMA;KHE")]⟩,
  ⟨"CAUCASIAN ALBANIAN LETTER ", [
    (0x10530, "ALT;BET;GIM;DAT;EB;ZARL;EYN;ZHIL;TAS;CHA;YOWD;ZHA;IRB;SHA;LAN;INYA;XEYN;DYAN;CAR"),
    (0x10543, "JHOX;KAR;LYIT;HEYT;QAY;AOR;CHOY;CHI;CYAY;MAQ;QAR;NOWC;DZYAY;SHAK;JAYN;ON;TYAY"),
    (0x10554, "FAM;DZAY;CHAT;PEN;GHEYS;RAT;SEYK;VEYZ;TIWR;SHOY;IWN;CYAW;CAYN;YAYD;PIWR;KIW")]⟩,
  ⟨"CAUCASIAN ALBANIAN ", [(0x1056f, "CITATION MARK")]⟩,
  ⟨"VITHKUQI CAPITAL LETTER ", [
    (0x10570, "A;BBE;BE;CE;CHE;DE;DHE;EI;E;FE;GA;;HA;HHA;I;IJE;JE;KA;LA;LLA;ME;NE;NJE;O;PE;QA"),
    (0x1058a, "RE;;SE;SHE;TE;THE;U;VE;XE;;Y;ZE")]⟩,
  ⟨"VITHKUQI SMALL LETTER ", [
    (0x10597, "A;BBE;BE;CE;CHE;DE;DHE;EI;E;FE;GA;;HA;HHA;I;IJE;JE;KA;LA;LLA;ME;NE;NJE;O;PE;QA"),
    (0x105b1, "RE;;SE;SHE;TE;THE;U;VE;XE;;Y;ZE")]⟩,
  ⟨"LINEAR A SIGN ", [
    (0x10600, "AB001;AB002;AB003;AB004;AB005;AB006;AB007;AB008;AB009;AB010;AB011;AB013;AB016"),
    (0x1060d, "AB017;AB020;AB021;AB021F;AB021M;AB022;AB022F;AB022M;AB023;AB023M;AB024;AB026"),
    (0x10619, "AB027;AB028;A028B;AB029;AB030;AB031;AB034;AB037;AB038;AB039;AB040;AB041;AB044"),
    (0x10626, "AB045;AB046;AB047;AB048;AB049;AB050;AB051;AB053;AB054;AB055;AB056;AB057;AB058"),
    (0x10633, "AB059;AB060;AB061;AB065;AB066;AB067;AB069;AB070;AB073;AB074;AB076;AB077;AB078"),
    (0x10640, "AB079;AB080;AB081;AB082;AB085;AB086;AB087;A100-102;AB118;AB120;A120B;AB122;AB123"),
    (0x1064d, "AB131A;AB131B;A131C;AB164;AB171;AB180;AB188;AB191;A301;A302;A303;A304;A305;A306"),
    (0x1065b, "A307;A308;A309A;A309B;A309C;A310;A311;A312;A313A;A313B;A313C;A314;A315;A316;A317"),
    (0x1066a, "A318;A319;A320;A321;A322;A323;A324;A325;A326;A327;A328;A329;A330;A331;A332;A333"),
    (0x1067a, "A334;A335;A336;A337;A338;A339;A340;A341;A342;A343;A344;A345;A346;A347;A348;A349"),
    (0x1068a, "A350;A351;A352;A353;A354;A355;A356;A357;A358;A359;A360;A361;A362;A363;A364;A365"),
    (0x1069a, "A366;A367;A368;A369;A370;A371;A400-VAS;A401-VAS;A402-VAS;A403-VAS;A404-VAS"),
    (0x106a5, "A405-VAS;A406-VAS;A407-VAS;A408-VAS;A409-VAS;A410-VAS;A411-VAS;A412-VAS;A413-VAS"),
    (0x106ae, "A414-VAS;A415-VAS;A416-VAS;A417-VAS;A418-VAS;A501;A502;A503;A504;A505;A506;A508"),
    (0x106ba, "A509;A510;A511;A512;A513;A515;A516;A520;A521;A523;A524;A525;A526;A527;A528;A529"),
    (0x106ca, "A530;A531;A532;A534;A535;A536;A537;A538;A539;A540;A541;A542;A545;A547;A548;A549"),
    (0x106da, "A550;A551;A552;A553;A554;A555;A556;A557;A559;A563;A564;A565;A566;A568;A569;A570"),
    (0x106ea, "A571;A572;A573;A574;A575;A576;A577;A578;A579;A580;A581;A582;A583;A584;A585;A586"),
    (0x106fa, "A587;A588;A589;A591;A592;A594;A595;A596;A598;A600;A601;A602;A603;A604;A606;A608"),
    (0x1070a, "A609;A610;A611;A612;A613;A614;A615;A616;A617;A618;A619;A620;A621;A622;A623;A624"),
    (0x1071a, "A626;A627;A628;A629;A634;A637;A638;A640;A642;A643;A644;A645;A646;A648;A649;A651"),
    (0x1072a, "A652;A653;A654;A655;A656;A657;A658;A659;A660;A661;A662;A663;A664"),
    (0x10740, "A701 A;A702 B;A703 D;A704 E;A705 F;A706 H;A707 J;A708 K;A709 L;A709-2 L2"),
    (0x1074a, "A709-3 L3;A709-4 L4;A709-6 L6;A710 W;A711 X;A712 Y;A713 OMEGA;A714 ABB;A715 BB"),
    (0x10753, "A717 DD;A726 EYYY;A732 JE"), (0x10760, "A800;A801;A802;A803;A804;A805;A806;A807")]⟩,
  ⟨"MODIFIER LETTER SMALL CAPITAL ", [
    (0x10780, "AA;;;;B"), (0x10792, "G;;G WITH HOOK;;H;;;;;;L WITH BELT;;;;;;;OE;;;;;;;R"),
    (0x107b2, "Y")]⟩,
  ⟨"MODIFIER LETTER ", [
    (0x10781, "SUPERSCRIPT TRIANGULAR COLON;SUPERSCRIPT HALF TRIANGULAR COLON"),
    (0x107b3, "GLOTTAL STOP WITH STROKE;REVERSED GLOTTAL STOP WITH STROKE;BILABIAL CLICK"),
    (0x107b6, "DENTAL CLICK;LATERAL CLICK;ALVEOLAR CLICK;RETROFLEX CLICK WITH RETROFLEX HOOK")]⟩,
  ⟨"MODIFIER LETTER SMALL ", [
    (0x10783, "AE;;B WITH HOOK;;DZ DIGRAPH;DZ DIGRAPH WITH RETROFLEX HOOK;DZ DIGRAPH WITH CURL"),
    (0x1078a, "DEZH DIGRAPH;D WITH TAIL;D WITH HOOK;D WITH HOOK AND TAIL;REVERSED E"),
    (0x1078f, "CLOSED REVERSED OPEN E;FENG DIGRAPH;RAMS HORN;;G WITH HOOK;;H WITH STROKE"),
    (0x10797, "HENG WITH HOOK;DOTLESS J WITH STROKE AND HOOK;LS DIGRAPH;LZ DIGRAPH;L WITH BELT"),
    (0x1079d, "L WITH RETROFLEX HOOK AND BELT;LEZH;LEZH WITH RETROFLEX HOOK;TURNED Y"),
    (0x107a1, "TURNED Y WITH BELT;O WITH STROKE;;CLOSED OMEGA;Q;TURNED R WITH LONG LEG"),
    (0x107a7, "TURNED R WITH LONG LEG AND RETROFLEX HOOK;R WITH TAIL;R WITH FISHHOOK"),
    (0x107ab, "TC DIGRAPH WITH CURL;TS DIGRAPH;TS DIGRAPH WITH RETROFLEX HOOK;TESH DIGRAPH"),
    (0x107af, "T WITH RETROFLEX HOOK;V WITH RIGHT HOOK"), (0x107ba, "S WITH CURL")]⟩,
  ⟨"CYPRIOT SYLLABLE ", [
    (0x10800, "A;E;I;O;U;JA;;;JO;;KA;KE;KI;KO;KU;LA;LE;LI;LO;LU;MA;ME;MI;MO;MU;NA;NE;NI;NO;NU"),
    (0x1081e, "PA;PE;PI;PO;PU;RA;RE;RI;RO;RU;SA;SE;SI;SO;SU;TA;TE;TI;TO;TU;WA;WE;WI;WO;;XA;XE"),
    (0x1083c, "ZA;;;ZO")]⟩,
  ⟨"IMPERIAL ARAMAIC LETTER ", [
    (0x10840, "ALEPH;BETH;GIMEL;DALETH;HE;WAW;ZAYIN;HETH;TETH;YODH;KAPH;LAMEDH;MEM;NUN;SAMEKH"),
    (0x1084f, "AYIN;PE;SADHE;QOPH;RESH;SHIN;TAW")]⟩,
  ⟨"IMPERIAL ARAMAIC ", [(0x10857, "SECTION SIGN")]⟩,
  ⟨"IMPERIAL ARAMAIC NUMBER ", [
    (0x10858, "ONE;TWO;THREE;TEN;TWENTY;ONE HUNDRED;ONE THOUSAND;TEN THOUSAND")]⟩,
  ⟨"PALMYRENE LETTER ", [
    (0x10860, "ALEPH;BETH;GIMEL;DALETH;HE;WAW;ZAYIN;HETH;TETH;YODH;KAPH;LAMEDH;MEM;FINAL NUN"),
    (0x1086e, "NUN;SAMEKH;AYIN;PE;SADHE;QOPH;RESH;SHIN;TAW")]⟩,
  ⟨"PALMYRENE ", [(0x10877, "LEFT-POINTING FLEURON;RIGHT-POINTING FLEURON")]⟩,
  ⟨"PALMYRENE NUMBER ", [(0x10879, "ONE;TWO;THREE;FOUR;FIVE;TEN;TWENTY")]⟩,
  ⟨"NABATAEAN LETTER FINAL ", [
    (0x10880, "ALEPH;;BETH;;;;HE;;;;;;YODH;;KAPH;;LAMEDH;;MEM;;NUN;;;;;;;;SHIN")]⟩,
  ⟨"NABATAEAN LETTER ", [
    (0x10881, "ALEPH;;BETH;GIMEL;DALETH;;HE;WAW;ZAYIN;HETH;TETH;;YODH;;KAPH;;LAMEDH;;MEM;;NUN"),
    (0x10896, "SAMEKH;AYIN;PE;SADHE;QOPH;RESH;;SHIN;TAW")]⟩,
  ⟨"NABATAEAN NUMBER ", [(0x108a7, "ONE;TWO;THREE;FOUR;;FIVE;TEN;TWENTY;ONE HUNDRED")]⟩,
  ⟨"NABATAEAN ", [(0x108ab, "CRUCIFORM NUMBER FOUR")]⟩,
  ⟨"HATRAN LETTER ", [
    (0x108e0, "ALEPH;BETH;GIMEL;DALETH-RESH;HE;WAW;ZAYN;HETH;TETH;YODH;KAPH;LAMEDH;MEM;NUN"),
    (0x108ee, "SAMEKH;AYN;PE;SADHE;QOPH;;SHIN;TAW")]⟩,
  ⟨"HATRAN NUMBER ", [(0x108fb, "ONE;FIVE;TEN;TWENTY;ONE HUNDRED")]⟩,
  ⟨"PHOENICIAN LETTER ", [
    (0x10900, "ALF;BET;GAML;DELT;HE;WAU;ZAI;HET;TET;YOD;KAF;LAMD;MEM;NUN;SEMK;AIN;PE;SADE;QOF"),
    (0x10913, "ROSH;SHIN;TAU")]⟩,
  ⟨"PHOENICIAN NUMBER ", [(0x10916, "ONE;TEN;TWENTY;ONE HUNDRED;TWO;THREE")]⟩,
  ⟨"PHOENICIAN ", [(0x1091f, "WORD SEPARATOR")]⟩,
  ⟨"LYDIAN LETTER ", [(0x10920, "A;B;G;D;E;V;I;Y;K;L;M;N;O;R;SS;T;U;F;Q;S;TT;AN;EN;LY;NN;C")]⟩,
  ⟨"LYDIAN ", [(0x1093f, "TRIANGULAR MARK")]⟩,
  ⟨"MEROITIC HIEROGLYPHIC LETTER ", [
    (0x10980, "A;E;I;O;YA;WA;BA;BA-2;PA;MA;NA;NA-2;NE;NE-2;RA;RA-2;LA;KHA;HHA;SA;SA-2;SE;KA;QA"),
    (0x10998, "TA;TA-2;TE;TE-2;TO;DA")]⟩,
  ⟨"MEROITIC HIEROGLYPHIC ", [(0x1099e, "SYMBOL VIDJ;SYMBOL VIDJ-2")]⟩,
  ⟨"MEROITIC CURSIVE LETTER ", [
    (0x109a0, "A;E;I;O;YA;WA;BA;PA;MA;NA;NE;RA;LA;KHA;HHA;SA;ARCHAIC SA;SE;KA;QA;TA;TE;TO;DA")]⟩,
  ⟨"MEROITIC CURSIVE FRACTION ", [
    (0x109bc, "ELEVEN TWELFTHS;ONE HALF"), (0x109f6, "ONE TWELFTH;TWO TWELFTHS;THREE TWELFTHS"),
    (0x109f9, "FOUR TWELFTHS;FIVE TWELFTHS;SIX TWELFTHS;SEVEN TWELFTHS;EIGHT TWELFTHS"),
    (0x109fe, "NINE TWELFTHS;TEN TWELFTHS")]⟩,
  ⟨"MEROITIC CURSIVE ", [(0x109be, "LOGOGRAM RMT;LOGOGRAM IMN")]⟩,
  ⟨"MEROITIC CURSIVE NUMBER ", [
    (0x109c0, "ONE;TWO;THREE;FOUR;FIVE;SIX;SEVEN;EIGHT;NINE;TEN;TWENTY;THIRTY;FORTY;FIFTY;SIXTY"),
    (0x109cf, "SEVENTY;;;ONE HUNDRED;TWO HUNDRED;THREE HUNDRED;FOUR HUNDRED;FIVE HUNDRED"),
    (0x109d7, "SIX HUNDRED;SEVEN HUNDRED;EIGHT HUNDRED;NINE HUNDRED;ONE THOUSAND;TWO THOUSAND"),
    (0x109dd, "THREE THOUSAND;FOUR THOUSAND;FIVE THOUSAND;SIX THOUSAND;SEVEN THOUSAND"),
    (0x109e2, "EIGHT THOUSAND;NINE THOUSAND;TEN THOUSAND;TWENTY THOUSAND;THIRTY THOUSAND"),
    (0x109e7, "FORTY THOUSAND;FIFTY THOUSAND;SIXTY THOUSAND;SEVENTY THOUSAND;EIGHTY THOUSAND"),
    (0x109ec, "NINETY THOUSAND;ONE HUNDRED THOUSAND;TWO HUNDRED THOUSAND;THREE HUNDRED THOUSAND"),
    (0x109f0, "FOUR HUNDRED THOUSAND;FIVE HUNDRED THOUSAND;SIX HUNDRED THOUSAND"),
    (0x109f3, "SEVEN HUNDRED THOUSAND;EIGHT HUNDRED THOUSAND;NINE HUNDRED THOUSAND")]⟩,
  ⟨"KHAROSHTHI LETTER ", [
    (0x10a00, "A"), (0x10a10, "KA;KHA;GA;GHA;;CA;CHA;JA;;NYA;TTA;TTHA;DDA;DDHA;NNA;TA;THA;DA"),
    (0x10a22, "DHA;NA;PA;PHA;BA;BHA;MA;YA;RA;LA;VA;SHA;SSA;SA;ZA;HA;KKA;TTTHA;TTTA;VHA")]⟩,
  ⟨"KHAROSHTHI VOWEL ", [
    (0x10a01, "SIGN I;SIGN U;SIGN VOCALIC R;;SIGN E;SIGN O;;;;;;LENGTH MARK")]⟩,
  ⟨"KHAROSHTHI SIGN ", [
    (0x10a0d, "DOUBLE RING BELOW;ANUSVARA;VISARGA"), (0x10a38, "BAR ABOVE;CAUDA;DOT BELOW")]⟩,
  ⟨"KHAROSHTHI ", [
    (0x10a3f, "VIRAMA;DIGIT ONE;DIGIT TWO;DIGIT THREE;DIGIT FOUR;NUMBER TEN;NUMBER TWENTY"),
    (0x10a46, "NUMBER ONE HUNDRED;NUMBER ONE THOUSAND;FRACTION ONE HALF")]⟩,
  ⟨"KHAROSHTHI PUNCTUATION ", [
    (0x10a50, "DOT;SMALL CIRCLE;CIRCLE;CRESCENT BAR;MANGALAM;LOTUS;DANDA;DOUBLE DANDA;LINES")]⟩,
  ⟨"OLD SOUTH ARABIAN LETTER ", [
    (0x10a60, "HE;LAMEDH;HETH;MEM;QOPH;WAW;SHIN;RESH;BETH;TAW;SAT;KAPH;NUN;KHETH;SADHE;SAMEKH"),
    (0x10a70, "FE;ALEF;AYN;DHADHE;GIMEL;DALETH;GHAYN;TETH;ZAYN;DHALETH;YODH;THAW;THETH")]⟩,
  ⟨"OLD SOUTH ARABIAN ", [(0x10a7d, "NUMBER ONE;NUMBER FIFTY;NUMERIC INDICATOR")]⟩,
  ⟨"OLD NORTH ARABIAN LETTER ", [
    (0x10a80, "HEH;LAM;HAH;MEEM;QAF;WAW;ES-2;REH;BEH;TEH;ES-1;KAF;NOON;KHAH;SAD;ES-3;FEH;ALEF"),
    (0x10a92, "AIN;DAD;GEEM;DAL;GHAIN;TAH;ZAIN;THAL;YEH;THEH;ZAH")]⟩,
  ⟨"OLD NORTH ARABIAN ", [(0x10a9d, "NUMBER ONE;NUMBER TEN;NUMBER TWENTY")]⟩,
  ⟨"MANICHAEAN LETTER ", [
    (0x10ac0, "ALEPH;BETH;BHETH;GIMEL;GHIMEL;DALETH;HE;WAW;;ZAYIN;ZHAYIN;JAYIN;JHAYIN;HETH;TETH"),
    (0x10acf, "YODH;KAPH;XAPH;KHAPH;LAMEDH;DHAMEDH;THAMEDH;MEM;NUN;SAMEKH;AYIN;AAYIN;PE;FE"),
    (0x10add, "SADHE;QOPH;XOPH;QHOPH;RESH;SHIN;SSHIN;TAW")]⟩,
  ⟨"MANICHAEAN ", [
    (0x10ac8, "SIGN UD"), (0x10ae5, "ABBREVIATION MARK ABOVE;ABBREVIATION MARK BELOW")]⟩,
  ⟨"MANICHAEAN NUMBER ", [(0x10aeb, "ONE;FIVE;TEN;TWENTY;ONE HUNDRED")]⟩,
  ⟨"MANICHAEAN PUNCTUATION ", [
    (0x10af0, "STAR;FLEURON;DOUBLE DOT WITHIN DOT;DOT WITHIN DOT;DOT;TWO DOTS;LINE FILLER")]⟩,
  ⟨"AVESTAN LETTER ", [
    (0x10b00, "A;AA;AO;AAO;AN;AAN;AE;AEE;E;EE;O;OO;I;II;U;UU;KE;XE;XYE;XVE;GE;GGE;GHE;CE;JE;TE"),
    (0x10b1a, "THE;DE;DHE;TTE;PE;FE;BE;BHE;NGE;NGYE;NGVE;NE;NYE;NNE;ME;HME;YYE;YE;VE;RE;LE;SE"),
    (0x10b30, "ZE;SHE;ZHE;SHYE;SSHE;HE")]⟩,
  ⟨"AVESTAN ", [(0x10b39, "ABBREVIATION MARK")]⟩,
  ⟨"LARGE ", [
    (0x10b3c, "TWO DOTS OVER ONE DOT PUNCTUATION;ONE DOT OVER TWO DOTS PUNCTUATION"),
    (0x10b3e, "TWO RINGS OVER ONE RING PUNCTUATION;ONE RING OVER TWO RINGS PUNCTUATION")]⟩,
  ⟨"INSCRIPTIONAL PARTHIAN LETTER ", [
    (0x10b40, "ALEPH;BETH;GIMEL;DALETH;HE;WAW;ZAYIN;HETH;TETH;YODH;KAPH;LAMEDH;MEM;NUN;SAMEKH"),
    (0x10b4f, "AYIN;PE;SADHE;QOPH;RESH;SHIN;TAW")]⟩,
  ⟨"INSCRIPTIONAL PARTHIAN NUMBER ", [
    (0x10b58, "ONE;TWO;THREE;FOUR;TEN;TWENTY;ONE HUNDRED;ONE THOUSAND")]⟩,
  ⟨"INSCRIPTIONAL PAHLAVI LETTER ", [
    (0x10b60, "ALEPH;BETH;GIMEL;DALETH;HE;WAW-AYIN-RESH;ZAYIN;HETH;TETH;YODH;KAPH;LAMEDH"),
    (0x10b6c, "MEM-QOPH;NUN;SAMEKH;PE;SADHE;SHIN;TAW")]⟩,
  ⟨"INSCRIPTIONAL PAHLAVI NUMBER ", [
    (0x10b78, "ONE;TWO;THREE;FOUR;TEN;TWENTY;ONE HUNDRED;ONE THOUSAND")]⟩,
  ⟨"PSALTER PAHLAVI LETTER ", [
    (0x10b80, "ALEPH;BETH;GIMEL;DALETH;HE;WAW-AYIN-RESH;ZAYIN;HETH;YODH;KAPH;LAMEDH;MEM-QOPH"),
    (0x10b8c, "NUN;SAMEKH;PE;SADHE;SHIN;TAW")]⟩,
  ⟨"PSALTER PAHLAVI ", [
    (0x10b99, "SECTION MARK;TURNED SECTION MARK;FOUR DOTS WITH CROSS;FOUR DOTS WITH DOT")]⟩,
  ⟨"PSALTER PAHLAVI NUMBER ", [(0x10ba9, "ONE;TWO;THREE;FOUR;TEN;TWENTY;ONE HUNDRED")]⟩,
  ⟨"OLD TURKIC LETTER ORKHON ", [
    (0x10c00, "A;;;I;;;O;OE;;AB;;AEB;;AG;;AEG;;AD;;AED;EZ;;AY;;AEY;;AEK;;OEK;;AL;;AEL;ELT;EM;AN"),
    (0x10c24, "AEN;;ENT;;ENC;;ENY;;;ENG;;EP;OP;IC;EC;;AQ;;IQ;;OQ;;AR;;AER;AS;AES;ASH;;ESH;;AT"),
    (0x10c45, "AET;;OT;BASH")]⟩,
  ⟨"OLD TURKIC LETTER YENISEI ", [
    (0x10c01, "A;AE;;I;E;;;OE;;AB;;AEB;;AG;;AEG;;AD;;;EZ;;AY;;AEY;;AEK;;OEK;;AL;;;;;;AEN;;ENT"),
    (0x10c29, "ENC;;ENY;ANG;;AENG;;;;;EC;;AQ;;IQ;;OQ;;AR;;;;;ASH;;ESH;;AT;;AET")]⟩,
  ⟨"OLD HUNGARIAN CAPITAL LETTER ", [
    (0x10c80, "A;AA;EB;AMB;EC;ENC;ECS;ED;AND;E;CLOSE E;EE;EF;EG;EGY;EH;I;II;EJ;EK;AK;UNK;EL;ELY"),
    (0x10c98, "EM;EN;ENY;O;OO;NIKOLSBURG OE;RUDIMENTA OE;OEE;EP;EMP;ER;SHORT ER;ES;ESZ;ET;ENT"),
    (0x10ca8, "ETY;ECH;U;UU;NIKOLSBURG UE;RUDIMENTA UE;EV;EZ;EZS;ENT-SHAPED SIGN;US")]⟩,
  ⟨"OLD HUNGARIAN SMALL LETTER ", [
    (0x10cc0, "A;AA;EB;AMB;EC;ENC;ECS;ED;AND;E;CLOSE E;EE;EF;EG;EGY;EH;I;II;EJ;EK;AK;UNK;EL;ELY"),
    (0x10cd8, "EM;EN;ENY;O;OO;NIKOLSBURG OE;RUDIMENTA OE;OEE;EP;EMP;ER;SHORT ER;ES;ESZ;ET;ENT"),
    (0x10ce8, "ETY;ECH;U;UU;NIKOLSBURG UE;RUDIMENTA UE;EV;EZ;EZS;ENT-SHAPED SIGN;US")]⟩,
  ⟨"OLD HUNGARIAN NUMBER ", [(0x10cfa, "ONE;FIVE;TEN;FIFTY;ONE HUNDRED;ONE THOUSAND")]⟩,
  ⟨"HANIFI ROHINGYA LETTER ", [
    (0x10d00, "A;BA;PA;TA;TTA;JA;CA;HA;KHA;FA;DA;DDA;RA;RRA;ZA;SA;SHA;KA;GA;LA;MA;NA;WA"),
    (0x10d17, "KINNA WA;YA;KINNA YA;NGA;NYA;VA")]⟩,
  ⟨"HANIFI ROHINGYA ", [
    (0x10d1d, "VOWEL A;VOWEL I;VOWEL U;VOWEL E;VOWEL O;MARK SAKIN;MARK NA KHONNA;SIGN HARBAHAY"),
    (0x10d25, "SIGN TAHALA;SIGN TANA;SIGN TASSI")]⟩,
  ⟨"HANIFI ROHINGYA DIGIT ", [(0x10d30, "ZERO;ONE;TWO;THREE;FOUR;FIVE;SIX;SEVEN;EIGHT;NINE")]⟩,
  ⟨"RUMI DIGIT ", [(0x10e60, "ONE;TWO;THREE;FOUR;FIVE;SIX;SEVEN;EIGHT;NINE")]⟩,
  ⟨"RUMI NUMBER ", [
    (0x10e69, "TEN;TWENTY;THIRTY;FORTY;FIFTY;SIXTY;SEVENTY;EIGHTY;NINETY;ONE HUNDRED"),
    (0x10e73, "TWO HUNDRED;THREE HUNDRED;FOUR HUNDRED;FIVE HUNDRED;SIX HUNDRED;SEVEN HUNDRED"),
    (0x10e79, "EIGHT HUNDRED;NINE HUNDRED")]⟩,
  ⟨"RUMI FRACTION ", [(0x10e7b, "ONE HALF;ONE QUARTER;ONE THIRD;TWO THIRDS")]⟩,
  ⟨"YEZIDI LETTER ", [
    (0x10e80, "ELIF;BE;PE;PHE;THE;SE;CIM;CHIM;CHHIM;HHA;XA;DAL;ZAL;RA;RHA;ZA;JA;SIN;SHIN;SAD"),
    (0x10e94, "DAD;TA;ZE;EYN;XHEYN;FA;VA;VA ALTERNATE FORM;QAF;KAF;KHAF;GAF;LAM;MIM;NUN;UM;WAW"),
    (0x10ea5, "OW;EW;HAY;YOT;ET;;;;;;;LAM WITH DOT ABOVE;YOT WITH CIRCUMFLEX ABOVE")]⟩,
  ⟨"YEZIDI ", [(0x10eab, "COMBINING HAMZA MARK;COMBINING MADDA MARK;HYPHENATION MARK")]⟩,
  ⟨"OLD SOGDIAN LETTER ", [
    (0x10f00, "ALEPH;;BETH;;GIMEL;HE;;WAW;ZAYIN;HETH;YODH;KAPH;LAMEDH;MEM;NUN;;;SAMEKH;AYIN"),
    (0x10f13, "ALTERNATE AYIN;PE;SADHE;;;RESH-AYIN-DALETH;SHIN;TAW")]⟩,
  ⟨"OLD SOGDIAN LETTER FINAL ", [
    (0x10f01, "ALEPH;;BETH;;;HE"), (0x10f0f, "NUN;NUN WITH VERTICAL TAIL;;;;;;SADHE"),
    (0x10f17, "SADHE WITH VERTICAL TAIL;;;;TAW;TAW WITH VERTICAL TAIL")]⟩,
  ⟨"OLD SOGDIAN NUMBER ", [(0x10f1d, "ONE;TWO;THREE;FOUR;FIVE;TEN;TWENTY;THIRTY;ONE HUNDRED")]⟩,
  ⟨"OLD SOGDIAN ", [(0x10f26, "FRACTION ONE HALF;LIGATURE AYIN-DALETH")]⟩,
  ⟨"SOGDIAN LETTER ", [
    (0x10f30, "ALEPH;BETH;GIMEL;HE;WAW;ZAYIN;HETH;YODH;KAPH;LAMEDH;MEM;NUN;SAMEKH;AYIN;PE;SADHE"),
    (0x10f40, "RESH-AYIN;SHIN;TAW;FETH;LESH")]⟩,
  ⟨"SOGDIAN ", [(0x10f45, "INDEPENDENT SHIN")]⟩,
  ⟨"SOGDIAN COMBINING ", [
    (0x10f46, "DOT BELOW;TWO DOTS BELOW;DOT ABOVE;TWO DOTS ABOVE;CURVE ABOVE;CURVE BELOW"),
    (0x10f4c, "HOOK ABOVE;HOOK BELOW;LONG HOOK BELOW;RESH BELOW;STROKE BELOW")]⟩,
  ⟨"SOGDIAN NUMBER ", [(0x10f51, "ONE;TEN;TWENTY;ONE HUNDRED")]⟩,
  ⟨"SOGDIAN PUNCTUATION ", [
    (0x10f55, "TWO VERTICAL BARS;TWO VERTICAL BARS WITH DOTS;CIRCLE WITH DOT"),
    (0x10f58, "TWO CIRCLES WITH DOTS;HALF CIRCLE WITH DOT")]⟩,
  ⟨"OLD UYGHUR LETTER ", [
    (0x10f70, "ALEPH;BETH;GIMEL-HETH;WAW;ZAYIN;FINAL HETH;YODH;KAPH;LAMEDH;MEM;NUN;SAMEKH;PE"),
    (0x10f7d, "SADHE;RESH;SHIN;TAW;LESH")]⟩,
  ⟨"OLD UYGHUR COMBINING ", [(0x10f82, "DOT ABOVE;DOT BELOW;TWO DOTS ABOVE;TWO DOTS BELOW")]⟩,
  ⟨"OLD UYGHUR PUNCTUATION ", [(0x10f86, "BAR;TWO BARS;TWO DOTS;FOUR DOTS")]⟩,
  ⟨"CHORASMIAN LETTER ", [
    (0x10fb0, "ALEPH;SMALL ALEPH;BETH;GIMEL;DALETH;HE;WAW;CURLED WAW;ZAYIN;HETH;YODH;KAPH"),
    (0x10fbc, "LAMEDH;MEM;NUN;SAMEKH;AYIN;PE;RESH;SHIN;TAW")]⟩,
  ⟨"CHORASMIAN NUMBER ", [(0x10fc5, "ONE;TWO;THREE;FOUR;TEN;TWENTY;ONE HUNDRED")]⟩,
  ⟨"ELYMAIC LETTER ", [
    (0x10fe0, "ALEPH;BETH;GIMEL;DALETH;HE;WAW;ZAYIN;HETH;TETH;YODH;KAPH;LAMEDH;MEM;NUN;SAMEKH"),
    (0x10fef, "AYIN;PE;SADHE;QOPH;RESH;SHIN;TAW")]⟩,
  ⟨"ELYMAIC ", [(0x10ff6, "LIGATURE ZAYIN-YODH")]⟩,
  ⟨"BRAHMI SIGN ", [
    (0x11000, "CANDRABINDU;ANUSVARA;VISARGA;JIHVAMULIYA;UPADHMANIYA"),
    (0x11070, "OLD TAMIL VIRAMA")]⟩,
  ⟨"BRAHMI LETTER ", [
    (0x11005, "A;AA;I;II;U;UU;VOCALIC R;VOCALIC RR;VOCALIC L;VOCALIC LL;E;AI;O;AU;KA;KHA;GA;GHA"),
    (0x11017, "NGA;CA;CHA;JA;JHA;NYA;TTA;TTHA;DDA;DDHA;NNA;TA;THA;DA;DHA;NA;PA;PHA;BA;BHA;MA;YA"),
    (0x1102d, "RA;LA;VA;SHA;SSA;SA;HA;LLA")]⟩,
  ⟨"BRAHMI LETTER OLD TAMIL ", [(0x11035, "LLLA;RRA;NNNA"), (0x11071, "SHORT E;SHORT O;;;LLA")]⟩,
  ⟨"BRAHMI VOWEL SIGN ", [
    (0x11038, "AA;BHATTIPROLU AA;I;II;U;UU;VOCALIC R;VOCALIC RR;VOCALIC L;VOCALIC LL;E;AI;O;AU"),
    (0x11073, "OLD TAMIL SHORT E;OLD TAMIL SHORT O")]⟩,
  ⟨"BRAHMI ", [(0x11046, "VIRAMA;DANDA;DOUBLE DANDA")]⟩,
  ⟨"BRAHMI PUNCTUATION ", [(0x11049, "DOT;DOUBLE DOT;LINE;CRESCENT BAR;LOTUS")]⟩,
  ⟨"BRAHMI NUMBER ", [
    (0x11052, "ONE;TWO;THREE;FOUR;FIVE;SIX;SEVEN;EIGHT;NINE;TEN;TWENTY;THIRTY;FORTY;FIFTY;SIXTY"),
    (0x11061, "SEVENTY;EIGHTY;NINETY;ONE HUNDRED;ONE THOUSAND"), (0x1107f, "JOINER")]⟩,
  ⟨"BRAHMI DIGIT ", [(0x11066, "ZERO;ONE;TWO;THREE;FOUR;FIVE;SIX;SEVEN;EIGHT;NINE")]⟩,
  ⟨"KAITHI SIGN ", [(0x11080, "CANDRABINDU;ANUSVARA;VISARGA"), (0x110b9, "VIRAMA;NUKTA")]⟩,
  ⟨"KAITHI LETTER ", [
    (0x11083, "A;AA;I;II;U;UU;E;AI;O;AU;KA;KHA;GA;GHA;NGA;CA;CHA;JA;JHA;NYA;TTA;TTHA;DDA;DDDHA"),
    (0x1109b, "DDHA;RHA;NNA;TA;THA;DA;DHA;NA;PA;PHA;BA;BHA;MA;YA;RA;LA;VA;SHA;SSA;SA;HA")]⟩,
  ⟨"KAITHI VOWEL SIGN ", [(0x110b0, "AA;I;II;U;UU;E;AI;O;AU"), (0x110c2, "VOCALIC R")]⟩,
  ⟨"KAITHI ", [
    (0x110bb, "ABBREVIATION SIGN;ENUMERATION SIGN;NUMBER SIGN;SECTION MARK;DOUBLE SECTION MARK"),
    (0x110c0, "DANDA;DOUBLE DANDA"), (0x110cd, "NUMBER SIGN ABOVE")]⟩,
  ⟨"SORA SOMPENG LETTER ", [
    (0x110d0, "SAH;TAH;BAH;CAH;DAH;GAH;MAH;NGAH;LAH;NAH;VAH;PAH;YAH;RAH;HAH;KAH;JAH;NYAH;AH;EEH"),
    (0x110e4, "IH;UH;OH;EH;MAE")]⟩,
  ⟨"SORA SOMPENG DIGIT ", [(0x110f0, "ZERO;ONE;TWO;THREE;FOUR;FIVE;SIX;SEVEN;EIGHT;NINE")]⟩,
  ⟨"CHAKMA ", [
    (0x11100, "SIGN CANDRABINDU;SIGN ANUSVARA;SIGN VISARGA"), (0x11131, "O MARK;AU MARK;VIRAMA"),
    (0x11134, "MAAYYAA"), (0x11140, "SECTION MARK;DANDA;DOUBLE DANDA;QUESTION MARK")]⟩,
  ⟨"CHAKMA LETTER ", [
    (0x11103, "AA;I;U;E;KAA;KHAA;GAA;GHAA;NGAA;CAA;CHAA;JAA;JHAA;NYAA;TTAA;TTHAA;DDAA;DDHAA"),
    (0x11115, "NNAA;TAA;THAA;DAA;DHAA;NAA;PAA;PHAA;BAA;BHAA;MAA;YYAA;YAA;RAA;LAA;WAA;SAA;HAA"),
    (0x11144, "LHAA;;;VAA")]⟩,
  ⟨"CHAKMA VOWEL SIGN ", [(0x11127, "A;I;II;U;UU;E;AI;O;AU;OI"), (0x11145, "AA;EI")]⟩,
  ⟨"CHAKMA DIGIT ", [(0x11136, "ZERO;ONE;TWO;THREE;FOUR;FIVE;SIX;SEVEN;EIGHT;NINE")]⟩,
  ⟨"MAHAJANI LETTER ", [
    (0x11150, "A;I;U;E;O;KA;KHA;GA;GHA;CA;CHA;JA;JHA;NYA;TTA;TTHA;DDA;DDHA;NNA;TA;THA;DA;DHA;NA"),
    (0x11168, "PA;PHA;BA;BHA;MA;RA;LA;VA;SA;HA;RRA")]⟩,
  ⟨"MAHAJANI ", [(0x11173, "SIGN NUKTA;ABBREVIATION SIGN;SECTION MARK;LIGATURE SHRI")]⟩,
  ⟨"SHARADA SIGN ", [
    (0x11180, "CANDRABINDU;ANUSVARA;VISARGA"), (0x111c0, "VIRAMA;AVAGRAHA;JIHVAMULIYA"),
    (0x111c3, "UPADHMANIYA;;;;;;;NUKTA;;;;;INVERTED CANDRABINDU"), (0x111db, "SIDDHAM")]⟩,
  ⟨"SHARADA LETTER ", [
    (0x11183, "A;AA;I;II;U;UU;VOCALIC R;VOCALIC RR;VOCALIC L;VOCALIC LL;E;AI;O;AU;KA;KHA;GA;GHA"),
    (0x11195, "NGA;CA;CHA;JA;JHA;NYA;TTA;TTHA;DDA;DDHA;NNA;TA;THA;DA;DHA;NA;PA;PHA;BA;BHA;MA;YA"),
    (0x111ab, "RA;LA;LLA;VA;SHA;SSA;SA;HA")]⟩,
  ⟨"SHARADA VOWEL SIGN ", [
    (0x111b3, "AA;I;II;U;UU;VOCALIC R;VOCALIC RR;VOCALIC L;VOCALIC LL;E;AI;O;AU"),
    (0x111ce, "PRISHTHAMATRA E")]⟩,
  ⟨"SHARADA ", [
    (0x111c4, "OM;DANDA;DOUBLE DANDA;ABBREVIATION SIGN;SEPARATOR;SANDHI MARK"),
    (0x111cc, "EXTRA SHORT VOWEL MARK;SUTRA MARK"), (0x111da, "EKAM;;HEADSTROKE"),
    (0x111dd, "CONTINUATION SIGN;SECTION MARK-1;SECTION MARK-2")]⟩,
  ⟨"SHARADA VOWEL ", [(0x111cb, "MODIFIER MARK")]⟩,
  ⟨"SHARADA DIGIT ", [(0x111d0, "ZERO;ONE;TWO;THREE;FOUR;FIVE;SIX;SEVEN;EIGHT;NINE")]⟩,
  ⟨"SINHALA ARCHAIC DIGIT ", [(0x111e1, "ONE;TWO;THREE;FOUR;FIVE;SIX;SEVEN;EIGHT;NINE")]⟩,
  ⟨"SINHALA ARCHAIC NUMBER ", [
    (0x111ea, "TEN;TWENTY;THIRTY;FORTY;FIFTY;SIXTY;SEVENTY;EIGHTY;NINETY;ONE HUNDRED"),
    (0x111f4, "ONE THOUSAND")]⟩,
  ⟨"KHOJKI LETTER ", [
    (0x11200, "A;AA;I;U;E;AI;O;AU;KA;KHA;GA;GGA;GHA;NGA;CA;CHA;JA;JJA;;NYA;TTA;TTHA;DDA;DDHA"),
    (0x11218, "NNA;TA;THA;DA;DDDA;DHA;NA;PA;PHA;BA;BBA;BHA;MA;YA;RA;LA;VA;SA;HA;LLA")]⟩,
  ⟨"KHOJKI VOWEL SIGN ", [(0x1122c, "AA;I;II;U;E;AI;O;AU")]⟩,
  ⟨"KHOJKI SIGN ", [(0x11234, "ANUSVARA;VIRAMA;NUKTA;SHADDA;;;;;;;SUKUN")]⟩,
  ⟨"KHOJKI ", [
    (0x11238, "DANDA;DOUBLE DANDA;WORD SEPARATOR;SECTION MARK;DOUBLE SECTION MARK"),
    (0x1123d, "ABBREVIATION SIGN")]⟩,
  ⟨"MULTANI LETTER ", [
    (0x11280, "A;I;U;E;KA;KHA;GA;;GHA;;CA;CHA;JA;JJA;;NYA;TTA;TTHA;DDA;DDDA;DDHA;NNA;TA;THA;DA"),
    (0x11299, "DHA;NA;PA;PHA;BA;;BHA;MA;YA;RA;LA;VA;SA;HA;RRA;RHA")]⟩,
  ⟨"MULTANI ", [(0x112a9, "SECTION MARK")]⟩,
  ⟨"KHUDAWADI LETTER ", [
    (0x112b0, "A;AA;I;II;U;UU;E;AI;O;AU;KA;KHA;GA;GGA;GHA;NGA;CA;CHA;JA;JJA;JHA;NYA;TTA;TTHA"),
    (0x112c8, "DDA;DDDA;RRA;DDHA;NNA;TA;THA;DA;DHA;NA;PA;PHA;BA;BBA;BHA;MA;YA;RA;LA;VA;SHA;SA"),
    (0x112de, "HA")]⟩,
  ⟨"KHUDAWADI ", [(0x112df, "SIGN ANUSVARA"), (0x112e9, "SIGN NUKTA;SIGN VIRAMA")]⟩,
  ⟨"KHUDAWADI VOWEL SIGN ", [(0x112e0, "AA;I;II;U;UU;E;AI;O;AU")]⟩,
  ⟨"KHUDAWADI DIGIT ", [(0x112f0, "ZERO;ONE;TWO;THREE;FOUR;FIVE;SIX;SEVEN;EIGHT;NINE")]⟩,
  ⟨"GRANTHA SIGN ", [
    (0x11300, "COMBINING ANUSVARA ABOVE;CANDRABINDU;ANUSVARA;VISARGA"), (0x1133c, "NUKTA"),
    (0x1133d, "AVAGRAHA"), (0x1134d, "VIRAMA"), (0x1135d, "PLUTA")]⟩,
  ⟨"GRANTHA LETTER ", [
    (0x11305, "A;AA;I;II;U;UU;VOCALIC R;VOCALIC L;;;EE;AI;;;OO;AU;KA;KHA;GA;GHA;NGA;CA;CHA;JA"),
    (0x1131d, "JHA;NYA;TTA;TTHA;DDA;DDHA;NNA;TA;THA;DA;DHA;NA;;PA;PHA;BA;BHA;MA;YA;RA;;LA;LLA"),
    (0x11335, "VA;SHA;SSA;SA;HA"), (0x1135e, "VEDIC ANUSVARA;VEDIC DOUBLE ANUSVARA;VOCALIC RR"),
    (0x11361, "VOCALIC LL")]⟩,
  ⟨"COMBINING ", [(0x1133b, "BINDU BELOW")]⟩,
  ⟨"GRANTHA VOWEL SIGN ", [
    (0x1133e, "AA;I;II;U;UU;VOCALIC R;VOCALIC RR;;;EE;AI;;;OO;AU"), (0x11362, "VOCALIC L"),
    (0x11363, "VOCALIC LL")]⟩,
  ⟨"GRANTHA ", [(0x11350, "OM;;;;;;;AU LENGTH MARK")]⟩,
  ⟨"COMBINING GRANTHA DIGIT ", [(0x11366, "ZERO;ONE;TWO;THREE;FOUR;FIVE;SIX")]⟩,
  ⟨"COMBINING GRANTHA ", [(0x11370, "LETTER A;LETTER KA;LETTER NA;LETTER VI;LETTER PA")]⟩,
  ⟨"NEWA LETTER ", [
    (0x11400, "A;AA;I;II;U;UU;;;;;E;AI;O;AU;KA;KHA;GA;GHA;NGA;NGHA;CA;CHA;JA;JHA;NYA;NYHA;TTA"),
    (0x1141b, "TTHA;DDA;DDHA;NNA;TA;THA;DA;DHA;NA;NHA;PA;PHA;BA;BHA;MA;MHA;YA;RA;RHA;LA;LHA;WA"),
    (0x11431, "SHA;SSA;SA;HA"), (0x1145f, "VEDIC ANUSVARA")]⟩,
  ⟨"NEWA LETTER VOCALIC ", [(0x11406, "R;RR;L;LL")]⟩,
  ⟨"NEWA VOWEL SIGN ", [
    (0x11435, "AA;I;II;U;UU;VOCALIC R;VOCALIC RR;VOCALIC L;VOCALIC LL;E;AI;O;AU")]⟩,
  ⟨"NEWA SIGN ", [
    (0x11442, "VIRAMA;CANDRABINDU;ANUSVARA;VISARGA;NUKTA;AVAGRAHA;FINAL ANUSVARA"),
    (0x11460, "JIHVAMULIYA;UPADHMANIYA")]⟩,
  ⟨"NEWA ", [
    (0x11449, "OM;SIDDHI;DANDA;DOUBLE DANDA;COMMA;GAP FILLER;ABBREVIATION SIGN"),
    (0x1145a, "DOUBLE COMMA;PLACEHOLDER MARK;;INSERTION SIGN;SANDHI MARK")]⟩,
  ⟨"NEWA DIGIT ", [(0x11450, "ZERO;ONE;TWO;THREE;FOUR;FIVE;SIX;SEVEN;EIGHT;NINE")]⟩,
  ⟨"TIRHUTA ", [(0x11480, "ANJI"), (0x114c5, "GVANG;ABBREVIATION SIGN;OM")]⟩,
  ⟨"TIRHUTA LETTER ", [
    (0x11481, "A;AA;I;II;U;UU;VOCALIC R;VOCALIC RR;VOCALIC L;VOCALIC LL;E;AI;O;AU;KA;KHA;GA;GHA"),
    (0x11493, "NGA;CA;CHA;JA;JHA;NYA;TTA;TTHA;DDA;DDHA;NNA;TA;THA;DA;DHA;NA;PA;PHA;BA;BHA;MA;YA"),
    (0x114a9, "RA;LA;VA;SHA;SSA;SA;HA")]⟩,
  ⟨"TIRHUTA VOWEL SIGN ", [
    (0x114b0, "AA;I;II;U;UU;VOCALIC R;VOCALIC RR;VOCALIC L;VOCALIC LL;E;SHORT E;AI;O;SHORT O;AU")]⟩,
  ⟨"TIRHUTA SIGN ", [(0x114bf, "CANDRABINDU;ANUSVARA;VISARGA;VIRAMA;NUKTA;AVAGRAHA")]⟩,
  ⟨"TIRHUTA DIGIT ", [(0x114d0, "ZERO;ONE;TWO;THREE;FOUR;FIVE;SIX;SEVEN;EIGHT;NINE")]⟩,
  ⟨"SIDDHAM LETTER ", [
    (0x11580, "A;AA;I;II;U;UU;VOCALIC R;VOCALIC RR;VOCALIC L;VOCALIC LL;E;AI;O;AU;KA;KHA;GA;GHA"),
    (0x11592, "NGA;CA;CHA;JA;JHA;NYA;TTA;TTHA;DDA;DDHA;NNA;TA;THA;DA;DHA;NA;PA;PHA;BA;BHA;MA;YA"),
    (0x115a8, "RA;LA;VA;SHA;SSA;SA;HA"), (0x115d8, "THREE-CIRCLE ALTERNATE I"),
    (0x115d9, "TWO-CIRCLE ALTERNATE I;TWO-CIRCLE ALTERNATE II;ALTERNATE U")]⟩,
  ⟨"SIDDHAM VOWEL SIGN ", [
    (0x115af, "AA;I;II;U;UU;VOCALIC R;VOCALIC RR;;;E;AI;O;AU"), (0x115dc, "ALTERNATE U"),
    (0x115dd, "ALTERNATE UU")]⟩,
  ⟨"SIDDHAM SIGN ", [(0x115bc, "CANDRABINDU;ANUSVARA;VISARGA;VIRAMA;NUKTA;SIDDHAM")]⟩,
  ⟨"SIDDHAM ", [(0x115c2, "DANDA;DOUBLE DANDA;SEPARATOR DOT;SEPARATOR BAR;;;;END OF TEXT MARK")]⟩,
  ⟨"SIDDHAM REPETITION ", [(0x115c6, "MARK-1;MARK-2;MARK-3")]⟩,
  ⟨"SIDDHAM SECTION MARK WITH ", [
    (0x115ca, "TRIDENT AND U-SHAPED ORNAMENTS;TRIDENT AND DOTTED CRESCENTS"),
    (0x115cc, "RAYS AND DOTTED CRESCENTS;RAYS AND DOTTED DOUBLE CRESCENTS"),
    (0x115ce, "RAYS AND DOTTED TRIPLE CRESCENTS;;;DOUBLE CRESCENTS;TRIPLE CRESCENTS"),
    (0x115d3, "QUADRUPLE CRESCENTS;SEPTUPLE CRESCENTS;CIRCLES AND RAYS"),
    (0x115d6, "CIRCLES AND TWO ENCLOSURES;CIRCLES AND FOUR ENCLOSURES")]⟩,
  ⟨"SIDDHAM SECTION MARK ", [(0x115cf, "DOUBLE RING;DOUBLE RING WITH RAYS")]⟩,
  ⟨"MODI LETTER ", [
    (0x11600, "A;AA;I;II;U;UU;;;;;E;AI;O;AU;KA;KHA;GA;GHA;NGA;CA;CHA;JA;JHA;NYA;TTA;TTHA;DDA"),
    (0x1161b, "DDHA;NNA;TA;THA;DA;DHA;NA;PA;PHA;BA;BHA;MA;YA;RA;LA;VA;SHA;SSA;SA;HA;LLA")]⟩,
  ⟨"MODI LETTER VOCALIC ", [(0x11606, "R;RR;L;LL")]⟩,
  ⟨"MODI VOWEL SIGN ", [
    (0x11630, "AA;I;II;U;UU;VOCALIC R;VOCALIC RR;VOCALIC L;VOCALIC LL;E;AI;O;AU")]⟩,
  ⟨"MODI SIGN ", [(0x1163d, "ANUSVARA;VISARGA;VIRAMA;ARDHACANDRA;;;;HUVA")]⟩,
  ⟨"MODI ", [(0x11641, "DANDA;DOUBLE DANDA;ABBREVIATION SIGN")]⟩,
  ⟨"MODI DIGIT ", [(0x11650, "ZERO;ONE;TWO;THREE;FOUR;FIVE;SIX;SEVEN;EIGHT;NINE")]⟩,
  ⟨"MONGOLIAN ", [
    (0x11660, "BIRGA WITH ORNAMENT;ROTATED BIRGA;DOUBLE BIRGA WITH ORNAMENT"),
    (0x11663, "TRIPLE BIRGA WITH ORNAMENT;BIRGA WITH DOUBLE ORNAMENT"),
    (0x11665, "ROTATED BIRGA WITH ORNAMENT;ROTATED BIRGA WITH DOUBLE ORNAMENT;INVERTED BIRGA"),
    (0x11668, "INVERTED BIRGA WITH DOUBLE ORNAMENT;SWIRL BIRGA;SWIRL BIRGA WITH ORNAMENT"),
    (0x1166b, "SWIRL BIRGA WITH DOUBLE ORNAMENT;TURNED SWIRL BIRGA WITH DOUBLE ORNAMENT")]⟩,
  ⟨"TAKRI LETTER ", [
    (0x11680, "A;AA;I;II;U;UU;E;AI;O;AU;KA;KHA;GA;GHA;NGA;CA;CHA;JA;JHA;NYA;TTA;TTHA;DDA;DDHA"),
    (0x11698, "NNA;TA;THA;DA;DHA;NA;PA;PHA;BA;BHA;MA;YA;RA;LA;VA;SHA;SA;HA;RRA"),
    (0x116b8, "ARCHAIC KHA")]⟩,
  ⟨"TAKRI ", [
    (0x116ab, "SIGN ANUSVARA;SIGN VISARGA"), (0x116b6, "SIGN VIRAMA;SIGN NUKTA"),
    (0x116b9, "ABBREVIATION SIGN")]⟩,
  ⟨"TAKRI VOWEL SIGN ", [(0x116ad, "AA;I;II;U;UU;E;AI;O;AU")]⟩,
  ⟨"TAKRI DIGIT ", [(0x116c0, "ZERO;ONE;TWO;THREE;FOUR;FIVE;SIX;SEVEN;EIGHT;NINE")]⟩,
  ⟨"AHOM LETTER ", [
    (0x11700, "KA;KHA;NGA;NA;TA;ALTERNATE TA;PA;PHA;BA;MA;JA;CHA;THA;RA;LA;SA;NYA;HA;A;DA;DHA"),
    (0x11715, "GA;ALTERNATE GA;GHA;BHA;JHA;ALTERNATE BA"), (0x11740, "CA;TTA;TTHA;DDA;DDHA;NNA"),
    (0x11746, "LLA")]⟩,
  ⟨"AHOM CONSONANT ", [(0x1171d, "SIGN MEDIAL LA;SIGN MEDIAL RA;SIGN MEDIAL LIGATING RA")]⟩,
  ⟨"AHOM VOWEL SIGN ", [(0x11720, "A;AA;I;II;U;UU;E;AW;O;AI;AM")]⟩,
  ⟨"AHOM ", [
    (0x1172b, "SIGN KILLER"), (0x1173a, "NUMBER TEN;NUMBER TWENTY;SIGN SMALL SECTION"),
    (0x1173d, "SIGN SECTION;SIGN RULAI;SYMBOL VI")]⟩,
  ⟨"AHOM DIGIT ", [(0x11730, "ZERO;ONE;TWO;THREE;FOUR;FIVE;SIX;SEVEN;EIGHT;NINE")]⟩,
  ⟨"DOGRA LETTER ", [
    (0x11800, "A;AA;I;II;U;UU;E;AI;O;AU;KA;KHA;GA;GHA;NGA;CA;CHA;JA;JHA;NYA;TTA;TTHA;DDA;DDHA"),
    (0x11818, "NNA;TA;THA;DA;DHA;NA;PA;PHA;BA;BHA;MA;YA;RA;LA;VA;SHA;SSA;SA;HA;RRA")]⟩,
  ⟨"DOGRA VOWEL SIGN ", [(0x1182c, "AA;I;II;U;UU;VOCALIC R;VOCALIC RR;E;AI;O;AU")]⟩,
  ⟨"DOGRA ", [(0x11837, "SIGN ANUSVARA;SIGN VISARGA;SIGN VIRAMA;SIGN NUKTA;ABBREVIATION SIGN")]⟩,
  ⟨"WARANG CITI CAPITAL LETTER ", [
    (0x118a0, "NGAA;A;WI;YU;YA;YO;II;UU;E;O;ANG;GA;KO;ENY;YUJ;UC;ENN;ODD;TTE;NUNG;DA;AT;AM;BU"),
    (0x118b8, "PU;HIYO;HOLO;HORR;HAR;SSUU;SII;VIYO")]⟩,
  ⟨"WARANG CITI SMALL LETTER ", [
    (0x118c0, "NGAA;A;WI;YU;YA;YO;II;UU;E;O;ANG;GA;KO;ENY;YUJ;UC;ENN;ODD;TTE;NUNG;DA;AT;AM;BU"),
    (0x118d8, "PU;HIYO;HOLO;HORR;HAR;SSUU;SII;VIYO")]⟩,
  ⟨"WARANG CITI DIGIT ", [(0x118e0, "ZERO;ONE;TWO;THREE;FOUR;FIVE;SIX;SEVEN;EIGHT;NINE")]⟩,
  ⟨"WARANG CITI NUMBER ", [(0x118ea, "TEN;TWENTY;THIRTY;FORTY;FIFTY;SIXTY;SEVENTY;EIGHTY;NINETY")]⟩,
  ⟨"WARANG CITI ", [(0x118ff, "OM")]⟩,
  ⟨"DIVES AKURU LETTER ", [
    (0x11900, "A;AA;I;II;U;UU;E;;;O;;;KA;KHA;GA;GHA;NGA;CA;CHA;JA;;NYA;TTA;;DDA;DDHA;NNA;TA;THA"),
    (0x1191d, "DA;DHA;NA;PA;PHA;BA;BHA;MA;YA;YYA;RA;LA;VA;SHA;SSA;SA;HA;LLA;ZA")]⟩,
  ⟨"DIVES AKURU VOWEL SIGN ", [(0x11930, "AA;I;II;U;UU;E;;AI;O")]⟩,
  ⟨"DIVES AKURU ", [
    (0x1193b, "SIGN ANUSVARA;SIGN CANDRABINDU;SIGN HALANTA;VIRAMA;PREFIXED NASAL SIGN;MEDIAL YA"),
    (0x11941, "INITIAL RA;MEDIAL RA;SIGN NUKTA;DOUBLE DANDA;GAP FILLER;END OF TEXT MARK")]⟩,
  ⟨"DIVES AKURU DIGIT ", [(0x11950, "ZERO;ONE;TWO;THREE;FOUR;FIVE;SIX;SEVEN;EIGHT;NINE")]⟩,
  ⟨"NANDINAGARI LETTER ", [
    (0x119a0, "A;AA;I;II;U;UU;VOCALIC R;VOCALIC RR;;;E;AI;O;AU;KA;KHA;GA;GHA;NGA;CA;CHA;JA;JHA"),
    (0x119b7, "NYA;TTA;TTHA;DDA;DDHA;NNA;TA;THA;DA;DHA;NA;PA;PHA;BA;BHA;MA;YA;RA;LA;VA;SHA;SSA"),
    (0x119cd, "SA;HA;LLA;RRA")]⟩,
  ⟨"NANDINAGARI VOWEL SIGN ", [
    (0x119d1, "AA;I;II;U;UU;VOCALIC R;VOCALIC RR;;;E;AI;O;AU;;;;;;;PRISHTHAMATRA E")]⟩,
  ⟨"NANDINAGARI ", [
    (0x119de, "SIGN ANUSVARA;SIGN VISARGA;SIGN VIRAMA;SIGN AVAGRAHA;SIGN SIDDHAM;HEADSTROKE")]⟩,
  ⟨"ZANABAZAR SQUARE LETTER ", [
    (0x11a00, "A"), (0x11a0b, "KA;KHA;GA;GHA;NGA;CA;CHA;JA;NYA;TTA;TTHA;DDA;DDHA;NNA;TA;THA;DA"),
    (0x11a1c, "DHA;NA;PA;PHA;BA;BHA;MA;TSA;TSHA;DZA;DZHA;ZHA;ZA;-A;YA;RA;LA;VA;SHA;SSA;SA;HA"),
    (0x11a32, "KSSA")]⟩,
  ⟨"ZANABAZAR SQUARE VOWEL SIGN ", [(0x11a01, "I;UE;U;E;OE;O;AI;AU;REVERSED I")]⟩,
  ⟨"ZANABAZAR SQUARE VOWEL ", [(0x11a0a, "LENGTH MARK")]⟩,
  ⟨"ZANABAZAR SQUARE ", [
    (0x11a33, "FINAL CONSONANT MARK;SIGN VIRAMA;SIGN CANDRABINDU;SIGN CANDRABINDU WITH ORNAMENT"),
    (0x11a37, "SIGN CANDRA WITH ORNAMENT;SIGN ANUSVARA;SIGN VISARGA;CLUSTER-INITIAL LETTER RA"),
    (0x11a3f, "INITIAL HEAD MARK;CLOSING HEAD MARK;MARK TSHEG;MARK SHAD;MARK DOUBLE SHAD"),
    (0x11a44, "MARK LONG TSHEG;INITIAL DOUBLE-LINED HEAD MARK;CLOSING DOUBLE-LINED HEAD MARK"),
    (0x11a47, "SUBJOINER")]⟩,
  ⟨"ZANABAZAR SQUARE CLUSTER-FINAL ", [(0x11a3b, "LETTER YA;LETTER RA;LETTER LA;LETTER VA")]⟩,
  ⟨"SOYOMBO LETTER ", [
    (0x11a50, "A"), (0x11a5c, "KA;KHA;GA;GHA;NGA;CA;CHA;JA;JHA;NYA;TTA;TTHA;DDA;DDHA;NNA;TA;THA"),
    (0x11a6d, "DA;DHA;NA;PA;PHA;BA;BHA;MA;TSA;TSHA;DZA;ZHA;ZA;-A;YA;RA;LA;VA;SHA;SSA;SA;HA;KSSA")]⟩,
  ⟨"SOYOMBO VOWEL SIGN ", [(0x11a51, "I;UE;U;E;O;OE;AI;AU;VOCALIC R;VOCALIC L")]⟩,
  ⟨"SOYOMBO VOWEL ", [(0x11a5b, "LENGTH MARK")]⟩,
  ⟨"SOYOMBO ", [
    (0x11a84, "SIGN JIHVAMULIYA;SIGN UPADHMANIYA"), (0x11a96, "SIGN ANUSVARA;SIGN VISARGA"),
    (0x11a98, "GEMINATION MARK;SUBJOINER;MARK TSHEG;MARK SHAD;MARK DOUBLE SHAD;MARK PLUTA"),
    (0x11a9e, "HEAD MARK WITH MOON AND SUN AND TRIPLE FLAME"),
    (0x11a9f, "HEAD MARK WITH MOON AND SUN AND FLAME;HEAD MARK WITH MOON AND SUN"),
    (0x11aa1, "TERMINAL MARK-1;TERMINAL MARK-2")]⟩,
  ⟨"SOYOMBO CLUSTER-INITIAL ", [(0x11a86, "LETTER RA;LETTER LA;LETTER SHA;LETTER SA")]⟩,
  ⟨"SOYOMBO FINAL CONSONANT SIGN ", [(0x11a8a, "G;K;NG;D;N;B;M;R;L;SH;S;-A")]⟩,
  ⟨"CANADIAN SYLLABICS NATTILIK ", [
    (0x11ab0, "HI;HII;HO;HOO;HA;HAA;SHRI;SHRII;SHRO;SHROO;SHRA;SHRAA")]⟩,
  ⟨"CANADIAN SYLLABICS ", [(0x11abc, "SPE;SPI;SPO;SPA")]⟩,
  ⟨"PAU CIN HAU LETTER ", [
    (0x11ac0, "PA;KA;LA;MA;DA;ZA;VA;NGA;HA;GA;KHA;SA;BA;CA;TA;THA;NA;PHA;RA;FA;CHA;A;E;I;O;U;UA"),
    (0x11adb, "IA")]⟩,
  ⟨"PAU CIN HAU LETTER FINAL ", [(0x11adc, "P;K;T;M;N;L;W;NG;Y")]⟩,
  ⟨"PAU CIN HAU ", [
    (0x11ae5, "RISING TONE LONG;RISING TONE;;RISING TONE LONG FINAL;RISING TONE FINAL"),
    (0x11aef, "MID-LEVEL TONE;GLOTTAL STOP VARIANT;MID-LEVEL TONE LONG FINAL"),
    (0x11af2, "MID-LEVEL TONE FINAL;;;GLOTTAL STOP;;;GLOTTAL STOP FINAL")]⟩,
  ⟨"PAU CIN HAU SANDHI ", [
    (0x11ae7, "GLOTTAL STOP;;;GLOTTAL STOP FINAL;TONE LONG;TONE;TONE LONG FINAL;TONE FINAL")]⟩,
  ⟨"PAU CIN HAU LOW-FALLING ", [(0x11af3, "TONE LONG;TONE;;TONE LONG FINAL;TONE FINAL")]⟩,
  ⟨"BHAIKSUKI LETTER ", [
    (0x11c00, "A;AA;I;II;U;UU;VOCALIC R;VOCALIC RR;VOCALIC L;;E;AI;O;AU;KA;KHA;GA;GHA;NGA;CA"),
    (0x11c14, "CHA;JA;JHA;NYA;TTA;TTHA;DDA;DDHA;NNA;TA;THA;DA;DHA;NA;PA;PHA;BA;BHA;MA;YA;RA;LA"),
    (0x11c2a, "VA;SHA;SSA;SA;HA")]⟩,
  ⟨"BHAIKSUKI VOWEL SIGN ", [(0x11c2f, "AA;I;II;U;UU;VOCALIC R;VOCALIC RR;VOCALIC L;;E;AI;O;AU")]⟩,
  ⟨"BHAIKSUKI ", [
    (0x11c3c, "SIGN CANDRABINDU;SIGN ANUSVARA;SIGN VISARGA;SIGN VIRAMA;SIGN AVAGRAHA;DANDA"),
    (0x11c42, "DOUBLE DANDA;WORD SEPARATOR;GAP FILLER-1;GAP FILLER-2"),
    (0x11c6c, "HUNDREDS UNIT MARK")]⟩,
  ⟨"BHAIKSUKI DIGIT ", [(0x11c50, "ZERO;ONE;TWO;THREE;FOUR;FIVE;SIX;SEVEN;EIGHT;NINE")]⟩,
  ⟨"BHAIKSUKI NUMBER ", [
    (0x11c5a, "ONE;TWO;THREE;FOUR;FIVE;SIX;SEVEN;EIGHT;NINE;TEN;TWENTY;THIRTY;FORTY;FIFTY;SIXTY"),
    (0x11c69, "SEVENTY;EIGHTY;NINETY")]⟩,
  ⟨"MARCHEN ", [(0x11c70, "HEAD MARK;MARK SHAD"), (0x11cb5, "SIGN ANUSVARA;SIGN CANDRABINDU")]⟩,
  ⟨"MARCHEN LETTER ", [
    (0x11c72, "KA;KHA;GA;NGA;CA;CHA;JA;NYA;TA;THA;DA;NA;PA;PHA;BA;MA;TSA;TSHA;DZA;WA;ZHA;ZA;-A"),
    (0x11c89, "YA;RA;LA;SHA;SA;HA;A")]⟩,
  ⟨"MARCHEN SUBJOINED LETTER ", [
    (0x11c92, "KA;KHA;GA;NGA;CA;CHA;JA;NYA;TA;THA;DA;NA;PA;PHA;BA;MA;TSA;TSHA;DZA;WA;ZHA;ZA;;YA"),
    (0x11caa, "RA;LA;SHA;SA;HA;A")]⟩,
  ⟨"MARCHEN VOWEL ", [(0x11cb0, "SIGN AA;SIGN I;SIGN U;SIGN E;SIGN O")]⟩,
  ⟨"MASARAM GONDI LETTER ", [
    (0x11d00, "A;AA;I;II;U;UU;E;;AI;O;;AU;KA;KHA;GA;GHA;NGA;CA;CHA;JA;JHA;NYA;TTA;TTHA;DDA;DDHA"),
    (0x11d1a, "NNA;TA;THA;DA;DHA;NA;PA;PHA;BA;BHA;MA;YA;RA;LA;VA;SHA;SSA;SA;HA;LLA;KSSA;JNYA"),
    (0x11d30, "TRA")]⟩,
  ⟨"MASARAM GONDI VOWEL SIGN ", [(0x11d31, "AA;I;II;U;UU;VOCALIC R;;;;E;;AI;O;;AU")]⟩,
  ⟨"MASARAM GONDI ", [
    (0x11d40, "SIGN ANUSVARA;SIGN VISARGA;SIGN NUKTA;SIGN CANDRA;SIGN HALANTA;VIRAMA;REPHA"),
    (0x11d47, "RA-KARA")]⟩,
  ⟨"MASARAM GONDI DIGIT ", [(0x11d50, "ZERO;ONE;TWO;THREE;FOUR;FIVE;SIX;SEVEN;EIGHT;NINE")]⟩,
  ⟨"GUNJALA GONDI LETTER ", [
    (0x11d60, "A;AA;I;II;U;UU;;EE;AI;;OO;AU;YA;VA;BA;BHA;MA;KA;KHA;TA;THA;LA;GA;GHA;DA;DHA;NA"),
    (0x11d7b, "CA;CHA;TTA;TTHA;LLA;JA;JHA;DDA;DDHA;NGA;PA;PHA;HA;RA;SA")]⟩,
  ⟨"GUNJALA GONDI VOWEL SIGN ", [(0x11d8a, "AA;I;II;U;UU;;EE;AI;;OO;AU")]⟩,
  ⟨"GUNJALA GONDI ", [(0x11d95, "SIGN ANUSVARA;SIGN VISARGA;VIRAMA;OM")]⟩,
  ⟨"GUNJALA GONDI DIGIT ", [(0x11da0, "ZERO;ONE;TWO;THREE;FOUR;FIVE;SIX;SEVEN;EIGHT;NINE")]⟩,
  ⟨"MAKASAR LETTER ", [(0x11ee0, "KA;GA;NGA;PA;BA;MA;TA;DA;NA;CA;JA;NYA;YA;RA;LA;VA;SA;A")]⟩,
  ⟨"MAKASAR ", [
    (0x11ef2, "ANGKA;VOWEL SIGN I;VOWEL SIGN U;VOWEL SIGN E;VOWEL SIGN O;PASSIMBANG"),
    (0x11ef8, "END OF SECTION")]⟩,
  ⟨"TAMIL FRACTION ONE ", [
    (0x11fc0, "THREE-HUNDRED-AND-TWENTIETH;ONE-HUNDRED-AND-SIXTIETH;EIGHTIETH;SIXTY-FOURTH"),
    (0x11fc4, "FORTIETH;THIRTY-SECOND;;;TWENTIETH;SIXTEENTH-1;SIXTEENTH-2;TENTH;EIGHTH;;;FIFTH"),
    (0x11fd0, "QUARTER;HALF-1;HALF-2")]⟩,
  ⟨"TAMIL FRACTION ", [
    (0x11fc6, "THREE EIGHTIETHS;THREE SIXTY-FOURTHS;;;;;;THREE TWENTIETHS;THREE SIXTEENTHS"),
    (0x11fd3, "THREE QUARTERS;DOWNSCALING FACTOR KIIZH")]⟩,
  ⟨"TAMIL SIGN ", [
    (0x11fd5, "NEL;CEVITU;AAZHAAKKU;UZHAKKU;MUUVUZHAKKU;KURUNI;PATHAKKU;MUKKURUNI;KAACU;PANAM"),
    (0x11fdf, "PON;VARAAKAN;PAARAM;KUZHI;VELI"), (0x11ff0, "MUTHALIYA;VAKAIYARAA")]⟩,
  ⟨"TAMIL ", [
    (0x11fe4, "WET CULTIVATION SIGN;DRY CULTIVATION SIGN;LAND SIGN;SALT PAN SIGN"),
    (0x11fe8, "TRADITIONAL CREDIT SIGN;TRADITIONAL NUMBER SIGN;CURRENT SIGN;AND ODD SIGN"),
    (0x11fec, "SPENT SIGN;TOTAL SIGN;IN POSSESSION SIGN;STARTING FROM SIGN"),
    (0x11fff, "PUNCTUATION END OF TEXT")]⟩]

end ReceiptRules.Text.CharacterName
