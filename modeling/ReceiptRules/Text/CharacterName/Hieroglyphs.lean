import ReceiptRules.Text.CharacterName.Naming

/-!
# Names of signs for words and sounds

The characters from 0x12000 to 0x1cfff: cuneiform signs, hieroglyphs, syllabaries and old musical signs.
-/

namespace ReceiptRules.Text.CharacterName

def hieroglyphs : List Family := [
  ⟨"CUNEIFORM SIGN ", [
    (0x12000, "A"), (0x12009, "A2;AB"), (0x12016, "AB2;AB2 TIMES BALAG;AB2 TIMES GAN2 TENU"),
    (0x12019, "AB2 TIMES ME PLUS EN;AB2 TIMES SHA3;AB2 TIMES TAK4;AD;AK;AK TIMES ERIN2"),
    (0x1201f, "AK TIMES SHITA PLUS GISH;AL"), (0x12029, "ALAN;ALEPH;AMAR;AMAR TIMES SHE;AN"),
    (0x1202e, "AN OVER AN;AN THREE TIMES;AN PLUS NAGA OPPOSING AN PLUS NAGA"),
    (0x12031, "AN PLUS NAGA SQUARED;ANSHE;APIN;ARAD;ARAD TIMES KUR;ARKAB;ASAL2;ASH"),
    (0x12039, "ASH ZIDA TENU;ASH KABA TENU;ASH OVER ASH TUG2 OVER TUG2 TUG2 OVER TUG2 PAP"),
    (0x1203c, "ASH OVER ASH OVER ASH;ASH OVER ASH OVER ASH CROSSING ASH OVER ASH OVER ASH;ASH2"),
    (0x1203f, "ASHGAB;BA;BAD;BAG3;BAHAR2;BAL;BAL OVER BAL;BALAG;BAR;BARA2;BI;BI TIMES A"),
    (0x1204b, "BI TIMES GAR;BI TIMES IGI GUNU;BU;BU OVER BU AB;BU OVER BU UN;BU CROSSING BU"),
    (0x12051, "BULUG;BULUG OVER BULUG;BUR;BUR2;DA;DAG"), (0x1206e, "DAM;DAR;DARA3;DARA4;DI;DIB"),
    (0x12074, "DIM;DIM TIMES SHE;DIM2;DIN;DIN KASKAL U GUNU DISH;DISH;DU;DU OVER DU;DU GUNU"),
    (0x1207d, "DU SHESHIG;DUB;DUB TIMES ESH2;DUB2;DUG;DUGUD;DUH;DUN;DUN3;DUN3 GUNU"),
    (0x12087, "DUN3 GUNU GUNU;DUN4;DUR2;E;E TIMES PAP;E OVER E NUN OVER NUN;E2;;;;;;;EDIN;EGIR"),
    (0x12096, "EL;EN;EN TIMES GAN2;EN TIMES GAN2 TENU;EN TIMES ME;EN CROSSING EN;EN OPPOSING EN"),
    (0x1209d, "EN SQUARED;EREN;ERIN2;ESH2;EZEN"), (0x120b5, "GA;GA GUNU;GA2"), (0x120ee, "GABA"),
    (0x120ef, "GABA CROSSING GABA;GAD;GAD OVER GAD GAR OVER GAR;GAL"),
    (0x120f3, "GAL GAD OVER GAD GAR OVER GAR;GALAM;GAM;GAN;GAN2;GAN2 TENU;GAN2 OVER GAN2"),
    (0x120fa, "GAN2 CROSSING GAN2;GAR;GAR3;GASHAN;GESHTIN;GESHTIN TIMES KUR;GI;GI TIMES E"),
    (0x12102, "GI TIMES U;GI CROSSING GI;GI4;GI4 OVER GI4;GI4 CROSSING GI4;GIDIM;GIR2;GIR2 GUNU"),
    (0x1210a, "GIR3;GIR3 TIMES A PLUS IGI;GIR3 TIMES GAN2 TENU;GIR3 TIMES IGI"),
    (0x1210e, "GIR3 TIMES LU PLUS IGI;GIR3 TIMES PA;GISAL;GISH;GISH CROSSING GISH"),
    (0x12113, "GISH TIMES BAD;GISH TIMES TAK4;GISH TENU;GU;GU CROSSING GU;GU2;GU2 TIMES KAK"),
    (0x1211a, "GU2 TIMES KAK TIMES IGI GUNU;GU2 TIMES NUN;GU2 TIMES SAL PLUS TUG2;GU2 GUNU;GUD"),
    (0x1211f, "GUD TIMES A PLUS KUR;GUD TIMES KUR;GUD OVER GUD LUGAL;GUL;GUM;GUM TIMES SHE;GUR"),
    (0x12126, "GUR7;GURUN;GURUSH;HA;HA TENU;HA GUNU;HAL;HI"), (0x12137, "HU;HUB2;HUB2 TIMES AN"),
    (0x1213a, "HUB2 TIMES HAL;HUB2 TIMES KASKAL;HUB2 TIMES LISH;HUB2 TIMES UD;HUL2;I;I A;IB"),
    (0x12142, "IDIM;IDIM OVER IDIM BUR;IDIM OVER IDIM SQUARED;IG;IGI;IGI DIB;IGI RI"),
    (0x12149, "IGI OVER IGI SHIR OVER SHIR UD OVER UD;IGI GUNU;IL;IL TIMES GAN2 TENU;IL2;IM"),
    (0x1214f, "IM TIMES TAK4;IM CROSSING IM;IM OPPOSING IM;IM SQUARED;IMIN;IN;IR;ISH;KA"),
    (0x1218d, "KA2;KA2 CROSSING KA2;KAB;KAD2;KAD3;KAD4;KAD5;KAD5 OVER KAD5;KAK"),
    (0x12196, "KAK TIMES IGI GUNU;KAL;KAL TIMES BAD;KAL CROSSING KAL;KAM2;KAM4;KASKAL"),
    (0x1219d, "KASKAL LAGAB TIMES U OVER LAGAB TIMES U"),
    (0x1219e, "KASKAL OVER KASKAL LAGAB TIMES U OVER LAGAB TIMES U;KESH2;KI;KI TIMES BAD"),
    (0x121a2, "KI TIMES U;KI TIMES UD;KID;KIN;KISAL;KISH;KISIM5;KISIM5 OVER KISIM5;KU"),
    (0x121ab, "KU OVER HI TIMES ASH2 KU OVER HI TIMES ASH2;KU3;KU4;KU4 VARIANT FORM;KU7;KUL"),
    (0x121b1, "KUL GUNU;KUN;KUR;KUR OPPOSING KUR;KUSHU2;KWU318;LA;LAGAB"), (0x121ec, "LAGAR"),
    (0x121ed, "LAGAR TIMES SHE;LAGAR TIMES SHE PLUS SUM;LAGAR GUNU"),
    (0x121f0, "LAGAR GUNU OVER LAGAR GUNU SHE;LAHSHU;LAL;LAL TIMES LAL;LAM;LAM TIMES KUR"),
    (0x121f6, "LAM TIMES KUR PLUS RU;LI;LIL;LIMMU2;LISH;LU;LU TIMES BAD;LU2"), (0x12216, "LU3"),
    (0x12217, "LUGAL;LUGAL OVER LUGAL;LUGAL OPPOSING LUGAL;LUGAL SHESHIG;LUH;LUL;LUM"),
    (0x1221e, "LUM OVER LUM;LUM OVER LUM GAR OVER GAR;MA;MA TIMES TAK4;MA GUNU;MA2;MAH;MAR;MASH"),
    (0x12227, "MASH2;ME;MES;MI;MIN;MU;MU OVER MU;MUG;MUG GUNU;MUNSUB;MURGU2;MUSH;;;;;;;MUSH3"),
    (0x1223a, "MUSH3 TIMES A;MUSH3 TIMES A PLUS DI;MUSH3 TIMES DI;MUSH3 GUNU;NA;NA2;NAGA"),
    (0x12241, "NAGA INVERTED;NAGA TIMES SHU TENU;NAGA OPPOSING NAGA;NAGAR;NAM NUTILLU;NAM;NAM2"),
    (0x12248, "NE;NE TIMES A;NE TIMES UD;NE SHESHIG;NI;NI TIMES E;NI2;NIM;NIM TIMES GAN2 TENU"),
    (0x12251, "NIM TIMES GAR PLUS GAN2 TENU;NINDA2"), (0x12260, "NISAG;NU;NU11;NUN"),
    (0x1226d, "NUNUZ"), (0x1227a, "PA;PAD;PAN;PAP;PESH2;PI"), (0x1228a, "PIRIG;PIRIG TIMES KAL"),
    (0x1228c, "PIRIG TIMES UD;PIRIG TIMES ZA;PIRIG OPPOSING PIRIG;RA;RAB;RI;RU;SA;;SAG"),
    (0x122a9, "SAL;SAL LAGAB TIMES ASH2;SANGA2;SAR;SHA;SHA3"), (0x122b7, "SHA6;SHAB6;SHAR2;SHE"),
    (0x122bb, "SHE HU;SHE OVER SHE GAD OVER GAD GAR OVER GAR"),
    (0x122bd, "SHE OVER SHE TAB OVER TAB GAR OVER GAR;SHEG9;SHEN;SHESH;SHESH2;SHESHLAM;SHID"),
    (0x122c4, "SHID TIMES A;SHID TIMES IM;SHIM"), (0x122d2, "SHINIG;SHIR;SHIR TENU"),
    (0x122d5, "SHIR OVER SHIR BUR OVER BUR;SHITA;SHU;SHU OVER INVERTED SHU;SHU2;SHUBUR;SI"),
    (0x122dc, "SI GUNU;SIG;SIG4;SIG4 OVER SIG4 SHU2;SIK2;SILA3;SU;SU OVER SU;SUD;SUD2;SUHUR;SUM"),
    (0x122e8, "SUMASH;SUR;SUR9;TA;TA ASTERISK;TA TIMES HI;TA TIMES MI;TA GUNU;TAB"),
    (0x122f1, "TAB OVER TAB NI OVER NI DISH OVER DISH;TAB SQUARED;TAG;TAG TIMES BI"),
    (0x122f5, "TAG TIMES GUD;TAG TIMES SHE;TAG TIMES SHU;TAG TIMES TUG2;TAG TIMES UD;TAK4;TAR"),
    (0x122fc, "TE;TE GUNU;TI;TI TENU;TIL;TIR;TIR TIMES TAK4;TIR OVER TIR"),
    (0x12304, "TIR OVER TIR GAD OVER GAD GAR OVER GAR;TU;TUG2;TUK;TUM;TUR"),
    (0x1230a, "TUR OVER TUR ZA OVER ZA;U;U GUD;U U U;U OVER U PA OVER PA GAR OVER GAR"),
    (0x1230f, "U OVER U SUR OVER SUR;U OVER U U REVERSED OVER U REVERSED;U2;UB;UD;UD KUSHU2"),
    (0x12315, "UD TIMES BAD;UD TIMES MI;UD TIMES U PLUS U PLUS U;UD TIMES U PLUS U PLUS U GUNU"),
    (0x12319, "UD GUNU;UD SHESHIG;UD SHESHIG TIMES BAD;UDUG;UM;UM TIMES LAGAB"),
    (0x1231f, "UM TIMES ME PLUS DA;UM TIMES SHA3;UM TIMES U;UMBIN;UMUM;UMUM TIMES KASKAL"),
    (0x12325, "UMUM TIMES PA;UN;UN GUNU;UR;UR CROSSING UR;UR SHESHIG;UR2"), (0x12334, "UR4;URI"),
    (0x12336, "URI3;URU"), (0x1234f, "URUDA;URUDA TIMES U;USH;USH TIMES A;USH TIMES KU"),
    (0x12354, "USH TIMES KUR;USH TIMES TAK4;USHX;USH2;USHUMX;UTUKI;UZ3;UZ3 TIMES KASKAL;UZU;ZA"),
    (0x1235e, "ZA TENU;ZA SQUARED TIMES KUR;ZAG;ZAMX;ZE2;ZI;ZI OVER ZI;ZI3;ZIB;ZIB KABA TENU"),
    (0x12368, "ZIG;ZIZ2;ZU;ZU5;ZU5 TIMES A;ZUBUR;ZUM;KAP ELAMITE;;AB2 TIMES A;AMAR TIMES KUG"),
    (0x12374, "DAG3;DISH PLUS SHU;DUB TIMES SHE;;;;;GE22;GIG;HUSH"), (0x1238c, "MESH"),
    (0x1238d, "MUSH3 TIMES ZA;NA4;NIN;NIN9;;;NU11 ROTATED NINETY DEGREES;PESH2 ASTERISK;PIR2"),
    (0x12397, "TI2;UM TIMES ME;U U"), (0x12482, "AD TIMES ESH2;BAD TIMES DISH TENU"),
    (0x12484, "BAHAR2 TIMES AB2;BAHAR2 TIMES NI;BAHAR2 TIMES ZA;BU OVER BU TIMES NA2"),
    (0x12488, "DA TIMES TAK4;;DIM TIMES IGI;DIM TIMES U U U;DIM2 TIMES UD"), (0x124ab, "ERIN2 X"),
    (0x124ac, "ESH2 CROSSING ESH2"), (0x124c9, "GABA ROTATED NINETY DEGREES;GESHTIN TIMES U"),
    (0x124cb, "GISH TIMES GISH CROSSING GISH;GU2 TIMES IGI GUNU;GUD PLUS GISH TIMES TAK4"),
    (0x124ce, "HA TENU GUNU;;;;;;;LAK-003;LAK-021;LAK-025;LAK-030;LAK-050;LAK-051;LAK-062"),
    (0x124dc, "LAK-079 OVER LAK-079 GUNU;LAK-080;LAK-081 OVER LAK-081;LAK-092;LAK-130;LAK-142"),
    (0x124e2, "LAK-210;LAK-219;LAK-220;LAK-225;LAK-228;LAK-238;LAK-265;LAK-266;LAK-343;LAK-347"),
    (0x124ec, "LAK-348;LAK-383;LAK-384;LAK-390;LAK-441;LAK-449;;;;;;LAK-450;LAK-457;LAK-470"),
    (0x124fa, "LAK-483;LAK-490;LAK-492;LAK-493;LAK-495;LAK-550;LAK-608;LAK-617"),
    (0x1250c, "LAK-636;LAK-648"), (0x12517, "LAK-724;LAK-749;;;;;;;MI PLUS ZA7"),
    (0x12531, "SHA6 TENU;SHE OVER SHE;SHE PLUS HUB2;SHE PLUS NAM2;SHE PLUS SAR"),
    (0x12536, "SHU2 PLUS DUG TIMES NI;SHU2 PLUS E2 TIMES AN;SI TIMES TAK4;TAK4 PLUS SAG"),
    (0x1253a, "TUM TIMES GAN2 TENU;TUM TIMES THREE DISH;;;;;;ZA7;ZU OVER ZU PLUS SAR"),
    (0x12543, "ZU5 TIMES THREE DISH TENU")]⟩,
  ⟨"CUNEIFORM SIGN A TIMES ", [(0x12001, "A;BAD;GAN2 TENU;HA;IGI;LAGAR GUNU;MUSH;SAG")]⟩,
  ⟨"CUNEIFORM SIGN AB TIMES ", [
    (0x1200b, "ASH2;DUN3 GUNU;GAL;GAN2 TENU;HA;IGI GUNU;IMIN;LAGAB;SHESH;U PLUS U PLUS U"),
    (0x12370, "NUN"), (0x12480, "NUN TENU;SHU2")]⟩,
  ⟨"CUNEIFORM SIGN AB ", [(0x12015, "GUNU")]⟩,
  ⟨"CUNEIFORM SIGN AL TIMES ", [(0x12021, "AL;DIM2;GISH;HA;KAD3;KI;SHE;USH")]⟩,
  ⟨"CUNEIFORM SIGN DAG KISIM5 TIMES ", [
    (0x12057, "A PLUS MASH;AMAR;BALAG;BI;GA;GA PLUS MASH;GI;GIR2;GUD;HA;IR;IR PLUS LU;KAK;LA;LU"),
    (0x12066, "LU PLUS MASH2;LUM;NE;PAP PLUS PAP;SI;TAK4;U2 PLUS GIR2;USH"),
    (0x12373, "U2 PLUS MASH")]⟩,
  ⟨"CUNEIFORM SIGN E2 TIMES ", [
    (0x1208e, "A PLUS HA PLUS DA;GAR;MI;SAL;SHE;U"), (0x124a9, "KUR;PAP")]⟩,
  ⟨"CUNEIFORM SIGN EZEN TIMES ", [
    (0x120a2, "A;A PLUS LAL;A PLUS LAL TIMES LAL;AN;BAD;DUN3 GUNU;DUN3 GUNU GUNU;HA;HA GUNU"),
    (0x120ab, "IGI GUNU;KASKAL;KASKAL SQUARED;KU3;LA;LAL TIMES LAL;LI;LU;U2;UD"),
    (0x12377, "GUD;SHE"), (0x124b5, "SU")]⟩,
  ⟨"CUNEIFORM SIGN GA2 TIMES ", [
    (0x120b8, "A PLUS DA PLUS HA;A PLUS HA;A PLUS IGI;AB2 TENU PLUS TAB;AN;ASH;ASH2 PLUS GAL"),
    (0x120bf, "BAD;BAR PLUS RA;BUR;BUR PLUS RA;DA;DI;DIM TIMES SHE;DUB;EL;EL PLUS LA;EN"),
    (0x120ca, "EN TIMES GAN2 TENU;GAN2 TENU;GAR;GI;GI4;GI4 PLUS A;GIR2 PLUS SU"),
    (0x120d1, "HA PLUS LU PLUS ESH2;HAL;HAL PLUS LA;HI PLUS LI;HUB2;IGI GUNU"),
    (0x120d7, "ISH PLUS HU PLUS ASH;KAK;KASKAL;KID;KID PLUS LAL;KU3 PLUS AN;LA;ME PLUS EN;MI"),
    (0x120e0, "NUN;NUN OVER NUN;PA;SAL;SAR;SHE;SHE PLUS TUR;SHID;SUM;TAK4;U;UD;UD PLUS DU"),
    (0x12379, "AN PLUS KAK PLUS A;ASH2"), (0x124b6, "BAHAR2;DIM GUNU;DUG TIMES IGI GUNU"),
    (0x124b9, "DUG TIMES KASKAL;EREN;GA;GAR PLUS DI;GAR PLUS NE;HA PLUS A;KUSHU2 PLUS KASKAL"),
    (0x124c0, "LAM;LAM TIMES KUR;LUH;MUSH;NE;NE PLUS E2;NE PLUS GI;SHIM;ZIZ2")]⟩,
  ⟨"CUNEIFORM SIGN GA2 ", [(0x120ed, "OVER GA2")]⟩,
  ⟨"CUNEIFORM SIGN HI TIMES ", [
    (0x1212e, "ASH;ASH2;BAD;DISH;GAD;KIN;NUN;SHE;U"), (0x124cf, "ASH OVER HI TIMES ASH")]⟩,
  ⟨"CUNEIFORM SIGN KA TIMES ", [
    (0x12158, "A;AD;AD PLUS KU3;ASH2;BAD;BALAG;BAR;BI;ERIN2;ESH2;GA;GAL;GAN2 TENU;GAR"),
    (0x12166, "GAR PLUS SHA3 PLUS A;GI;GIR2;GISH PLUS SAR;GISH CROSSING GISH;GU;GUR7;IGI;IM;KAK"),
    (0x12170, "KI;KID;LI;LU;ME;ME PLUS DU;ME PLUS GI;ME PLUS TE;MI;MI PLUS NUNUZ;NE;NUN;PI;RU"),
    (0x1217e, "SA;SAR;SHA;SHE;SHID;SHU;SIG;SUHUR;TAR;U;U2;UD;UMUM TIMES PA;USH;ZI"),
    (0x1237e, "ANSHE;ASH3;GISH;GUD;HI TIMES ASH2;LUM;PA;SHUL;TU;UR2"), (0x124d0, "BU;KA;U U U"),
    (0x124d3, "UR")]⟩,
  ⟨"CUNEIFORM SIGN LAGAB TIMES ", [
    (0x121b9, "A;A PLUS DA PLUS HA;A PLUS GAR;A PLUS LAL;AL;AN;ASH ZIDA TENU;BAD;BI;DAR;EN;GA"),
    (0x121c5, "GAR;GUD;GUD PLUS GUD;HA;HAL;HI TIMES NUN;IGI GUNU;IM;IM PLUS HA;IM PLUS LU;KI"),
    (0x121d0, "KIN;KU3;KUL;KUL PLUS HI PLUS A;LAGAB;LISH;LU;LUL;ME;ME PLUS EN;MUSH;NE"),
    (0x121dc, "SHE PLUS SUM;SHITA PLUS GISH PLUS ERIN2;SHITA PLUS GISH TENU;SHU2;SHU2 PLUS SHU2"),
    (0x121e1, "SUM;TAG;TAK4;TE PLUS A PLUS SU PLUS NA;U;U PLUS A;U PLUS U PLUS U;U2 PLUS ASH;UD"),
    (0x121ea, "USH"), (0x12388, "GI"), (0x124d4, "ZU OVER ZU")]⟩,
  ⟨"CUNEIFORM SIGN LAGAB ", [(0x121eb, "SQUARED")]⟩,
  ⟨"CUNEIFORM SIGN LU2 TIMES ", [
    (0x121fe, "AL;BAD;ESH2;ESH2 TENU;GAN2 TENU;HI TIMES BAD;IM;KAD2;KAD3;KAD3 PLUS ASH;KI"),
    (0x12209, "LA PLUS ASH;LAGAB;ME PLUS EN;NE;NU;SI PLUS ASH;SIK2 PLUS BU;TUG2"),
    (0x1238a, "ESH2 PLUS LAL;SHU"), (0x1251a, "DISH;HAL;PAP;PAP PLUS PAP PLUS LU3;TAK4")]⟩,
  ⟨"CUNEIFORM SIGN LU2 ", [
    (0x12211, "TENU;CROSSING LU2;OPPOSING LU2;SQUARED;SHESHIG"), (0x12389, "SHESHIG TIMES BAD"),
    (0x12519, "GUNU TIMES ASH")]⟩,
  ⟨"CUNEIFORM SIGN MUSH ", [
    (0x12233, "TIMES A;TIMES KUR;TIMES ZA;OVER MUSH;OVER MUSH TIMES A PLUS NA;CROSSING MUSH"),
    (0x12520, "OVER MUSH TIMES GA;OVER MUSH TIMES KAK")]⟩,
  ⟨"CUNEIFORM SIGN NINDA2 TIMES ", [
    (0x12253, "AN;ASH;ASH PLUS ASH;GUD;ME PLUS GAN2 TENU;NE;NUN;SHE;SHE PLUS A AN;SHE PLUS ASH"),
    (0x1225d, "SHE PLUS ASH PLUS ASH;U2 PLUS ASH;USH"), (0x12391, "BAL;GI"),
    (0x12522, "DIM GUNU;GISH;GUL;HI;KESH2;LAK-050;MASH;PAP PLUS PAP;U;U PLUS U;URUDA")]⟩,
  ⟨"CUNEIFORM SIGN NUN ", [
    (0x12264, "LAGAR TIMES GAR;LAGAR TIMES MASH;LAGAR TIMES SAL"),
    (0x12267, "LAGAR TIMES SAL OVER NUN LAGAR TIMES SAL;LAGAR TIMES USH;TENU;OVER NUN"),
    (0x1226b, "CROSSING NUN;CROSSING NUN LAGAR OVER LAGAR")]⟩,
  ⟨"CUNEIFORM SIGN NUNUZ AB2 TIMES ", [
    (0x1226e, "ASHGAB;BI;DUG;GUD;IGI GUNU;KAD3;LA;NE;SILA3;U2")]⟩,
  ⟨"CUNEIFORM SIGN NUNUZ ", [(0x12278, "KISIM5 TIMES BI;KISIM5 TIMES BI U")]⟩,
  ⟨"CUNEIFORM SIGN PI TIMES ", [(0x12280, "A;AB;BI;BU;E;I;IB;U;U2")]⟩,
  ⟨"CUNEIFORM SIGN PI ", [(0x12289, "CROSSING PI")]⟩,
  ⟨"CUNEIFORM SIGN SAG ", [
    (0x12294, "NUTILLU"), (0x122a7, "OVER SAG;GUNU"), (0x1252d, "GUNU TIMES HA")]⟩,
  ⟨"CUNEIFORM SIGN SAG TIMES ", [
    (0x12296, "A;DU;DUB;HA;KAK;KUR;LUM;MI;NUN;SAL;SHID;TAB;U2;UB;UM;UR;USH"),
    (0x12396, "IGI GUNU"), (0x1252e, "EN;SHE AT LEFT;TAK4")]⟩,
  ⟨"CUNEIFORM SIGN SHA3 TIMES ", [(0x122af, "A;BAD;GISH;NE;SHU2;TUR;U;U PLUS A")]⟩,
  ⟨"CUNEIFORM SIGN SHIM TIMES ", [
    (0x122c7, "A;BAL;BULUG;DIN;GAR;IGI;IGI GUNU;KUSHU2;LUL;MUG;SAL")]⟩,
  ⟨"CUNEIFORM SIGN UR2 TIMES ", [
    (0x1232c, "A PLUS HA;A PLUS NA;AL;HA;NUN;U2;U2 PLUS ASH;U2 PLUS BI"), (0x1253d, "UD")]⟩,
  ⟨"CUNEIFORM SIGN URU TIMES ", [
    (0x12338, "A;ASHGAB;BAR;DUN;GA;GAL;GAN2 TENU;GAR;GU;HA;IGI;IM;ISH;KI;LUM;MIN;PA;SHE;SIG4;TU"),
    (0x1234c, "U PLUS GUD;UD;URUDA"), (0x1253e, "DARA3;LAK-668;LU3")]⟩,
  ⟨"CUNEIFORM NUMERIC ", [
    (0x12400, "SIGN TWO ASH;SIGN THREE ASH;SIGN FOUR ASH;SIGN FIVE ASH;SIGN SIX ASH"),
    (0x12405, "SIGN SEVEN ASH;SIGN EIGHT ASH;SIGN NINE ASH;SIGN THREE DISH;SIGN FOUR DISH"),
    (0x1240a, "SIGN FIVE DISH;SIGN SIX DISH;SIGN SEVEN DISH;SIGN EIGHT DISH;SIGN NINE DISH"),
    (0x1240f, "SIGN FOUR U;SIGN FIVE U;SIGN SIX U;SIGN SEVEN U;SIGN EIGHT U;SIGN NINE U"),
    (0x12415, "SIGN ONE GESH2;SIGN TWO GESH2;SIGN THREE GESH2;SIGN FOUR GESH2;SIGN FIVE GESH2"),
    (0x1241a, "SIGN SIX GESH2;SIGN SEVEN GESH2;SIGN EIGHT GESH2;SIGN NINE GESH2;SIGN ONE GESHU"),
    (0x1241f, "SIGN TWO GESHU;SIGN THREE GESHU;SIGN FOUR GESHU;SIGN FIVE GESHU;SIGN TWO SHAR2"),
    (0x12424, "SIGN THREE SHAR2;SIGN THREE SHAR2 VARIANT FORM;SIGN FOUR SHAR2;SIGN FIVE SHAR2"),
    (0x12428, "SIGN SIX SHAR2;SIGN SEVEN SHAR2;SIGN EIGHT SHAR2;SIGN NINE SHAR2;SIGN ONE SHARU"),
    (0x1242d, "SIGN TWO SHARU;SIGN THREE SHARU;SIGN THREE SHARU VARIANT FORM;SIGN FOUR SHARU"),
    (0x12431, "SIGN FIVE SHARU;SIGN SHAR2 TIMES GAL PLUS DISH;SIGN SHAR2 TIMES GAL PLUS MIN"),
    (0x12434, "SIGN ONE BURU;SIGN TWO BURU;SIGN THREE BURU;SIGN THREE BURU VARIANT FORM"),
    (0x12438, "SIGN FOUR BURU;SIGN FIVE BURU;SIGN THREE VARIANT FORM ESH16"),
    (0x1243b, "SIGN THREE VARIANT FORM ESH21;SIGN FOUR VARIANT FORM LIMMU"),
    (0x1243d, "SIGN FOUR VARIANT FORM LIMMU4;SIGN FOUR VARIANT FORM LIMMU A"),
    (0x1243f, "SIGN FOUR VARIANT FORM LIMMU B;SIGN SIX VARIANT FORM ASH9"),
    (0x12441, "SIGN SEVEN VARIANT FORM IMIN3;SIGN SEVEN VARIANT FORM IMIN A"),
    (0x12443, "SIGN SEVEN VARIANT FORM IMIN B;SIGN EIGHT VARIANT FORM USSU"),
    (0x12445, "SIGN EIGHT VARIANT FORM USSU3;SIGN NINE VARIANT FORM ILIMMU"),
    (0x12447, "SIGN NINE VARIANT FORM ILIMMU3;SIGN NINE VARIANT FORM ILIMMU4"),
    (0x12449, "SIGN NINE VARIANT FORM ILIMMU A;SIGN TWO ASH TENU;SIGN THREE ASH TENU"),
    (0x1244c, "SIGN FOUR ASH TENU;SIGN FIVE ASH TENU;SIGN SIX ASH TENU;SIGN ONE BAN2"),
    (0x12450, "SIGN TWO BAN2;SIGN THREE BAN2;SIGN FOUR BAN2;SIGN FOUR BAN2 VARIANT FORM"),
    (0x12454, "SIGN FIVE BAN2;SIGN FIVE BAN2 VARIANT FORM;SIGN NIGIDAMIN;SIGN NIGIDAESH"),
    (0x12458, "SIGN ONE ESHE3;SIGN TWO ESHE3;SIGN ONE THIRD DISH;SIGN TWO THIRDS DISH"),
    (0x1245c, "SIGN FIVE SIXTHS DISH;SIGN ONE THIRD VARIANT FORM A"),
    (0x1245e, "SIGN TWO THIRDS VARIANT FORM A;SIGN ONE EIGHTH ASH;SIGN ONE QUARTER ASH"),
    (0x12461, "SIGN OLD ASSYRIAN ONE SIXTH;SIGN OLD ASSYRIAN ONE QUARTER;SIGN ONE QUARTER GUR"),
    (0x12464, "SIGN ONE HALF GUR;SIGN ELAMITE ONE THIRD;SIGN ELAMITE TWO THIRDS"),
    (0x12467, "SIGN ELAMITE FORTY;SIGN ELAMITE FIFTY;SIGN FOUR U VARIANT FORM"),
    (0x1246a, "SIGN FIVE U VARIANT FORM;SIGN SIX U VARIANT FORM;SIGN SEVEN U VARIANT FORM"),
    (0x1246d, "SIGN EIGHT U VARIANT FORM;SIGN NINE U VARIANT FORM")]⟩,
  ⟨"CUNEIFORM PUNCTUATION ", [
    (0x12470, "SIGN OLD ASSYRIAN WORD DIVIDER;SIGN VERTICAL COLON;SIGN DIAGONAL COLON"),
    (0x12473, "SIGN DIAGONAL TRICOLON;SIGN DIAGONAL QUADCOLON")]⟩,
  ⟨"CUNEIFORM SIGN DAG ", [(0x12489, "TIMES KUR")]⟩,
  ⟨"CUNEIFORM SIGN DUG TIMES ", [
    (0x1248d, "ANSHE;ASH;ASH AT LEFT;DIN;DUN;ERIN2;GA;GI;GIR2 GUNU;GISH;HA;HI;IGI GUNU;KASKAL"),
    (0x1249b, "KUR;KUSHU2;KUSHU2 PLUS KASKAL;LAK-020;LAM;LAM TIMES KUR;LUH PLUS GISH;MASH;MES"),
    (0x124a4, "MI;NI;PI;SHE;SI GUNU")]⟩,
  ⟨"CUNEIFORM SIGN EZEN SHESHIG TIMES ", [(0x124ad, "ASH;HI;IGI GUNU;LA;LAL;ME;MES;SU")]⟩,
  ⟨"CUNEIFORM SIGN LAK-449 ", [
    (0x124f2, "TIMES GU;TIMES IGI;TIMES PAP PLUS LU3;TIMES PAP PLUS PAP PLUS LU3"),
    (0x124f6, "TIMES U2 PLUS BA")]⟩,
  ⟨"CUNEIFORM SIGN LAK-617 TIMES ", [
    (0x12502, "ASH;BAD;DUN3 GUNU GUNU;KU3;LA;TAR;TE;U2;UD;URUDA")]⟩,
  ⟨"CUNEIFORM SIGN LAK-648 TIMES ", [
    (0x1250e, "DUB;GA;IGI;IGI GUNU;NI;PAP PLUS PAP PLUS LU3;SHESH PLUS KI;UD;URUDA")]⟩,
  ⟨"CUNEIFORM SIGN UR2 ", [(0x1253c, "INVERTED")]⟩,
  ⟨"CYPRO-MINOAN SIGN ", [
    (0x12f90, "CM001;CM002;CM004;CM005;CM006;CM007;CM008;CM009;CM010;CM011;CM012;CM012B;CM013"),
    (0x12f9d, "CM015;CM017;CM019;CM021;CM023;CM024;CM025;CM026;CM027;CM028;CM029;CM030;CM033"),
    (0x12faa, "CM034;CM035;CM036;CM037;CM038;CM039;CM040;CM041;CM044;CM046;CM047;CM049;CM050"),
    (0x12fb7, "CM051;CM052;CM053;CM054;CM055;CM056;CM058;CM059;CM060;CM061;CM062;CM063;CM064"),
    (0x12fc4, "CM066;CM067;CM068;CM069;CM070;CM071;CM072;CM073;CM074;CM075;CM075B;CM076;CM078"),
    (0x12fd1, "CM079;CM080;CM081;CM082;CM083;CM084;CM085;CM086;CM087;CM088;CM089;CM090;CM091"),
    (0x12fde, "CM092;CM094;CM095;CM096;CM097;CM098;CM099;CM100;CM101;CM102;CM103;CM104;CM105"),
    (0x12feb, "CM107;CM108;CM109;CM110;CM112;CM114;CM301;CM302")]⟩,
  ⟨"EGYPTIAN HIEROGLYPH ", [
    (0x13000, "A001;A002;A003;A004;A005;A005A;A006;A006A;A006B;A007;A008;A009;A010;A011;A012"),
    (0x1300f, "A013;A014;A014A;A015;A016;A017;A017A;A018;A019;A020;A021;A022;A023;A024;A025"),
    (0x1301e, "A026;A027;A028;A029;A030;A031;A032;A032A;A033;A034;A035;A036;A037;A038;A039;A040"),
    (0x1302e, "A040A;A041;A042;A042A;A043;A043A;A044;A045;A045A;A046;A047;A048;A049;A050;A051"),
    (0x1303d, "A052;A053;A054;A055;A056;A057;A058;A059;A060;A061;A062;A063;A064;A065;A066;A067"),
    (0x1304d, "A068;A069;A070;B001;B002;B003;B004;B005;B005A;B006;B007;B008;B009;C001;C002"),
    (0x1305c, "C002A;C002B;C002C;C003;C004;C005;C006;C007;C008;C009;C010;C010A;C011;C012;C013"),
    (0x1306b, "C014;C015;C016;C017;C018;C019;C020;C021;C022;C023;C024;D001;D002;D003;D004;D005"),
    (0x1307b, "D006;D007;D008;D008A;D009;D010;D011;D012;D013;D014;D015;D016;D017;D018;D019;D020"),
    (0x1308b, "D021;D022;D023;D024;D025;D026;D027;D027A;D028;D029;D030;D031;D031A;D032;D033"),
    (0x1309a, "D034;D034A;D035;D036;D037;D038;D039;D040;D041;D042;D043;D044;D045;D046;D046A"),
    (0x130a9, "D047;D048;D048A;D049;D050;D050A;D050B;D050C;D050D;D050E;D050F;D050G;D050H;D050I"),
    (0x130b7, "D051;D052;D052A;D053;D054;D054A;D055;D056;D057;D058;D059;D060;D061;D062;D063"),
    (0x130c6, "D064;D065;D066;D067;D067A;D067B;D067C;D067D;D067E;D067F;D067G;D067H;E001;E002"),
    (0x130d4, "E003;E004;E005;E006;E007;E008;E008A;E009;E009A;E010;E011;E012;E013;E014;E015"),
    (0x130e3, "E016;E016A;E017;E017A;E018;E019;E020;E020A;E021;E022;E023;E024;E025;E026;E027"),
    (0x130f2, "E028;E028A;E029;E030;E031;E032;E033;E034;E034A;E036;E037;E038;F001;F001A;F002"),
    (0x13101, "F003;F004;F005;F006;F007;F008;F009;F010;F011;F012;F013;F013A;F014;F015;F016;F017"),
    (0x13111, "F018;F019;F020;F021;F021A;F022;F023;F024;F025;F026;F027;F028;F029;F030;F031"),
    (0x13120, "F031A;F032;F033;F034;F035;F036;F037;F037A;F038;F038A;F039;F040;F041;F042;F043"),
    (0x1312f, "F044;F045;F045A;F046;F046A;F047;F047A;F048;F049;F050;F051;F051A;F051B;F051C;F052"),
    (0x1313e, "F053;G001;G002;G003;G004;G005;G006;G006A;G007;G007A;G007B;G008;G009;G010;G011"),
    (0x1314d, "G011A;G012;G013;G014;G015;G016;G017;G018;G019;G020;G020A;G021;G022;G023;G024"),
    (0x1315c, "G025;G026;G026A;G027;G028;G029;G030;G031;G032;G033;G034;G035;G036;G036A;G037"),
    (0x1316b, "G037A;G038;G039;G040;G041;G042;G043;G043A;G044;G045;G045A;G046;G047;G048;G049"),
    (0x1317a, "G050;G051;G052;G053;G054;H001;H002;H003;H004;H005;H006;H006A;H007;H008;I001;I002"),
    (0x1318a, "I003;I004;I005;I005A;I006;I007;I008;I009;I009A;I010;I010A;I011;I011A;I012;I013"),
    (0x13199, "I014;I015;K001;K002;K003;K004;K005;K006;K007;K008;L001;L002;L002A;L003;L004;L005"),
    (0x131a9, "L006;L006A;L007;L008;M001;M001A;M001B;M002;M003;M003A;M004;M005;M006;M007;M008"),
    (0x131b8, "M009;M010;M010A;M011;M012;M012A;M012B;M012C;M012D;M012E;M012F;M012G;M012H;M013"),
    (0x131c6, "M014;M015;M015A;M016;M016A;M017;M017A;M018;M019;M020;M021;M022;M022A;M023;M024"),
    (0x131d5, "M024A;M025;M026;M027;M028;M028A;M029;M030;M031;M031A;M032;M033;M033A;M033B;M034"),
    (0x131e4, "M035;M036;M037;M038;M039;M040;M040A;M041;M042;M043;M044;N001;N002;N003;N004;N005"),
    (0x131f4, "N006;N007;N008;N009;N010;N011;N012;N013;N014;N015;N016;N017;N018;N018A;N018B"),
    (0x13203, "N019;N020;N021;N022;N023;N024;N025;N025A;N026;N027;N028;N029;N030;N031;N032;N033"),
    (0x13213, "N033A;N034;N034A;N035;N035A;N036;N037;N037A;N038;N039;N040;N041;N042;NL001;NL002"),
    (0x13222, "NL003;NL004;NL005;NL005A;NL006;NL007;NL008;NL009;NL010;NL011;NL012;NL013;NL014"),
    (0x1322f, "NL015;NL016;NL017;NL017A;NL018;NL019;NL020;NU001;NU002;NU003;NU004;NU005;NU006"),
    (0x1323c, "NU007;NU008;NU009;NU010;NU010A;NU011;NU011A;NU012;NU013;NU014;NU015;NU016;NU017"),
    (0x13249, "NU018;NU018A;NU019;NU020;NU021;NU022;NU022A;O001;O001A;O002;O003;O004;O005;O005A"),
    (0x13257, "O006;O006A;O006B;O006C;O006D;O006E;O006F;O007;O008;O009;O010;O010A;O010B;O010C"),
    (0x13265, "O011;O012;O013;O014;O015;O016;O017;O018;O019;O019A;O020;O020A;O021;O022;O023"),
    (0x13274, "O024;O024A;O025;O025A;O026;O027;O028;O029;O029A;O030;O030A;O031;O032;O033;O033A"),
    (0x13283, "O034;O035;O036;O036A;O036B;O036C;O036D;O037;O038;O039;O040;O041;O042;O043;O044"),
    (0x13292, "O045;O046;O047;O048;O049;O050;O050A;O050B;O051;P001;P001A;P002;P003;P003A;P004"),
    (0x132a1, "P005;P006;P007;P008;P009;P010;P011;Q001;Q002;Q003;Q004;Q005;Q006;Q007;R001;R002"),
    (0x132b1, "R002A;R003;R003A;R003B;R004;R005;R006;R007;R008;R009;R010;R010A;R011;R012;R013"),
    (0x132c0, "R014;R015;R016;R016A;R017;R018;R019;R020;R021;R022;R023;R024;R025;R026;R027;R028"),
    (0x132d0, "R029;S001;S002;S002A;S003;S004;S005;S006;S006A;S007;S008;S009;S010;S011;S012"),
    (0x132df, "S013;S014;S014A;S014B;S015;S016;S017;S017A;S018;S019;S020;S021;S022;S023;S024"),
    (0x132ee, "S025;S026;S026A;S026B;S027;S028;S029;S030;S031;S032;S033;S034;S035;S035A;S036"),
    (0x132fd, "S037;S038;S039;S040;S041;S042;S043;S044;S045;S046;T001;T002;T003;T003A;T004;T005"),
    (0x1330d, "T006;T007;T007A;T008;T008A;T009;T009A;T010;T011;T011A;T012;T013;T014;T015;T016"),
    (0x1331c, "T016A;T017;T018;T019;T020;T021;T022;T023;T024;T025;T026;T027;T028;T029;T030;T031"),
    (0x1332c, "T032;T032A;T033;T033A;T034;T035;T036;U001;U002;U003;U004;U005;U006;U006A;U006B"),
    (0x1333b, "U007;U008;U009;U010;U011;U012;U013;U014;U015;U016;U017;U018;U019;U020;U021;U022"),
    (0x1334b, "U023;U023A;U024;U025;U026;U027;U028;U029;U029A;U030;U031;U032;U032A;U033;U034"),
    (0x1335a, "U035;U036;U037;U038;U039;U040;U041;U042;V001;V001A;V001B;V001C;V001D;V001E;V001F"),
    (0x13369, "V001G;V001H;V001I;V002;V002A;V003;V004;V005;V006;V007;V007A;V007B;V008;V009;V010"),
    (0x13378, "V011;V011A;V011B;V011C;V012;V012A;V012B;V013;V014;V015;V016;V017;V018;V019;V020"),
    (0x13387, "V020A;V020B;V020C;V020D;V020E;V020F;V020G;V020H;V020I;V020J;V020K;V020L;V021"),
    (0x13394, "V022;V023;V023A;V024;V025;V026;V027;V028;V028A;V029;V029A;V030;V030A;V031;V031A"),
    (0x133a3, "V032;V033;V033A;V034;V035;V036;V037;V037A;V038;V039;V040;V040A;W001;W002;W003"),
    (0x133b2, "W003A;W004;W005;W006;W007;W008;W009;W009A;W010;W010A;W011;W012;W013;W014;W014A"),
    (0x133c1, "W015;W016;W017;W017A;W018;W018A;W019;W020;W021;W022;W023;W024;W024A;W025;X001"),
    (0x133d0, "X002;X003;X004;X004A;X004B;X005;X006;X006A;X007;X008;X008A;Y001;Y001A;Y002;Y003"),
    (0x133df, "Y004;Y005;Y006;Y007;Y008;Z001;Z002;Z002A;Z002B;Z002C;Z002D;Z003;Z003A;Z003B;Z004"),
    (0x133ee, "Z004A;Z005;Z005A;Z006;Z007;Z008;Z009;Z010;Z011;Z012;Z013;Z014;Z015;Z015A;Z015B"),
    (0x133fd, "Z015C;Z015D;Z015E;Z015F;Z015G;Z015H;Z015I;Z016;Z016A;Z016B;Z016C;Z016D;Z016E"),
    (0x1340a, "Z016F;Z016G;Z016H;AA001;AA002;AA003;AA004;AA005;AA006;AA007;AA007A;AA007B;AA008"),
    (0x13417, "AA009;AA010;AA011;AA012;AA013;AA014;AA015;AA016;AA017;AA018;AA019;AA020;AA021"),
    (0x13424, "AA022;AA023;AA024;AA025;AA026;AA027;AA028;AA029;AA030;AA031;AA032"),
    (0x13430, "VERTICAL JOINER;HORIZONTAL JOINER;INSERT AT TOP START;INSERT AT BOTTOM START"),
    (0x13434, "INSERT AT TOP END;INSERT AT BOTTOM END;OVERLAY MIDDLE;BEGIN SEGMENT;END SEGMENT")]⟩,
  ⟨"ANATOLIAN HIEROGLYPH ", [
    (0x14400, "A001;A002;A003;A004;A005;A006;A007;A008;A009;A010;A010A;A011;A012;A013;A014;A015"),
    (0x14410, "A016;A017;A018;A019;A020;A021;A022;A023;A024;A025;A026;A026A;A027;A028;A029;A030"),
    (0x14420, "A031;A032;A033;A034;A035;A036;A037;A038;A039;A039A;A040;A041;A041A;A042;A043"),
    (0x1442f, "A044;A045;A045A;A046;A046A;A046B;A047;A048;A049;A050;A051;A052;A053;A054;A055"),
    (0x1443e, "A056;A057;A058;A059;A060;A061;A062;A063;A064;A065;A066;A066A;A066B;A066C;A067"),
    (0x1444d, "A068;A069;A070;A071;A072;A073;A074;A075;A076;A077;A078;A079;A080;A081;A082;A083"),
    (0x1445d, "A084;A085;A086;A087;A088;A089;A090;A091;A092;A093;A094;A095;A096;A097;A097A;A098"),
    (0x1446d, "A098A;A099;A100;A100A;A101;A101A;A102;A102A;A103;A104;A104A;A104B;A104C;A105"),
    (0x1447b, "A105A;A105B;A106;A107;A107A;A107B;A107C;A108;A109;A110;A110A;A110B;A111;A112"),
    (0x14489, "A113;A114;A115;A115A;A116;A117;A118;A119;A120;A121;A122;A123;A124;A125;A125A"),
    (0x14498, "A126;A127;A128;A129;A130;A131;A132;A133;A134;A135;A135A;A136;A137;A138;A139;A140"),
    (0x144a8, "A141;A142;A143;A144;A145;A146;A147;A148;A149;A150;A151;A152;A153;A154;A155;A156"),
    (0x144b8, "A157;A158;A159;A160;A161;A162;A163;A164;A165;A166;A167;A168;A169;A170;A171;A172"),
    (0x144c8, "A173;A174;A175;A176;A177;A178;A179;A180;A181;A182;A183;A184;A185;A186;A187;A188"),
    (0x144d8, "A189;A190;A191;A192;A193;A194;A195;A196;A197;A198;A199;A200;A201;A202;A202A"),
    (0x144e7, "A202B;A203;A204;A205;A206;A207;A207A;A208;A209;A209A;A210;A211;A212;A213;A214"),
    (0x144f6, "A215;A215A;A216;A216A;A217;A218;A219;A220;A221;A222;A223;A224;A225;A226;A227"),
    (0x14505, "A227A;A228;A229;A230;A231;A232;A233;A234;A235;A236;A237;A238;A239;A240;A241;A242"),
    (0x14515, "A243;A244;A245;A246;A247;A248;A249;A250;A251;A252;A253;A254;A255;A256;A257;A258"),
    (0x14525, "A259;A260;A261;A262;A263;A264;A265;A266;A267;A267A;A268;A269;A270;A271;A272;A273"),
    (0x14535, "A274;A275;A276;A277;A278;A279;A280;A281;A282;A283;A284;A285;A286;A287;A288;A289"),
    (0x14545, "A289A;A290;A291;A292;A293;A294;A294A;A295;A296;A297;A298;A299;A299A;A300;A301"),
    (0x14554, "A302;A303;A304;A305;A306;A307;A308;A309;A309A;A310;A311;A312;A313;A314;A315;A316"),
    (0x14564, "A317;A318;A319;A320;A321;A322;A323;A324;A325;A326;A327;A328;A329;A329A;A330;A331"),
    (0x14574, "A332A;A332B;A332C;A333;A334;A335;A336;A336A;A336B;A336C;A337;A338;A339;A340;A341"),
    (0x14583, "A342;A343;A344;A345;A346;A347;A348;A349;A350;A351;A352;A353;A354;A355;A356;A357"),
    (0x14593, "A358;A359;A359A;A360;A361;A362;A363;A364;A364A;A365;A366;A367;A368;A368A;A369"),
    (0x145a2, "A370;A371;A371A;A372;A373;A374;A375;A376;A377;A378;A379;A380;A381;A381A;A382"),
    (0x145b1, "A383 RA OR RI;A383A;A384;A385;A386;A386A;A387;A388;A389;A390;A391;A392"),
    (0x145bd, "A393 EIGHT;A394;A395;A396;A397;A398;A399;A400;A401;A402;A403;A404;A405;A406;A407"),
    (0x145cc, "A408;A409;A410 BEGIN LOGOGRAM MARK;A410A END LOGOGRAM MARK;A411;A412;A413;A414"),
    (0x145d4, "A415;A416;A417;A418;A419;A420;A421;A422;A423;A424;A425;A426;A427;A428;A429;A430"),
    (0x145e4, "A431;A432;A433;A434;A435;A436;A437;A438;A439;A440;A441;A442;A443;A444;A445;A446"),
    (0x145f4, "A447;A448;A449;A450;A450A;A451;A452;A453;A454;A455;A456;A457;A457A;A458;A459"),
    (0x14603, "A460;A461;A462;A463;A464;A465;A466;A467;A468;A469;A470;A471;A472;A473;A474;A475"),
    (0x14613, "A476;A477;A478;A479;A480;A481;A482;A483;A484;A485;A486;A487;A488;A489;A490;A491"),
    (0x14623, "A492;A493;A494;A495;A496;A497;A501;A502;A503;A504;A505;A506;A507;A508;A509;A510"),
    (0x14633, "A511;A512;A513;A514;A515;A516;A517;A518;A519;A520;A521;A522;A523;A524;A525;A526"),
    (0x14643, "A527;A528;A529;A530")]⟩,
  ⟨"BAMUM LETTER PHASE-A ", [
    (0x16800, "NGKUE MFON;GBIEE FON;PON MFON PIPAEMGBIEE;PON MFON PIPAEMBA;NAA MFON;SHUENSHUET"),
    (0x16806, "TITA MFON;NZA MFON;SHINDA PA NJI;PON PA NJI PIPAEMGBIEE;PON PA NJI PIPAEMBA"),
    (0x1680b, "MAEMBGBIEE;TU MAEMBA;NGANGU;MAEMVEUX;MANSUAE;MVEUAENGAM;SEUNYAM;NTOQPEN"),
    (0x16813, "KEUKEUTNDA;NKINDI;SUU;NGKUENZEUM;LAPAQ;LET KUT;NTAP MFAA;MAEKEUP;PASHAE"),
    (0x1681c, "GHEUAERAE;PAMSHAE;MON NGGEUAET;NZUN MEUT;U YUQ NAE;GHEUAEGHEUAE;NTAP NTAA;SISA"),
    (0x16824, "MGBASA;MEUNJOMNDEUQ;MOOMPUQ;KAFA;PA LEERAEWA;NDA LEERAEWA;PET;MAEMKPEN;NIKA;PUP"),
    (0x1682e, "TUAEP;LUAEP;SONJAM;TEUTEUWEN;MAENYI;KET;NDAANGGEUAET;KUOQ;MOOMEUT;SHUM;LOMMAE"),
    (0x16839, "FIRI;ROM;KPOQ;SOQ;MAP PIEET;SHIRAE;NTAP;SHOQ NSHUT YUM;NYIT MONGKEUAEQ;PAARAE"),
    (0x16843, "NKAARAE;UNKNOWN;NGGEN;MAESI;NJAM;MBANYI;NYET;TEUAEN;SOT;PAAM;NSHIEE;MAEM;NYI;KAQ"),
    (0x16851, "NSHA;VEE;LU;NEN;NAQ;MBAQ")]⟩,
  ⟨"BAMUM LETTER PHASE-B ", [
    (0x16857, "NSHUET;TU MAEMGBIEE;SIEE;SET TU;LOM NTEUM;MBA MAELEE;KIEEM;YEURAE;MBAARAE;KAM"),
    (0x16861, "PEESHI;YAFU LEERAEWA;LAM NSHUT NYAM;NTIEE SHEUOQ;NDU NJAA;GHEUGHEUAEM;PIT"),
    (0x16868, "TU NSIEE;SHET NJAQ;SHEUAEQTU;MFON TEUAEQ;MBIT MBAAKET;NYI NTEUM;KEUPUQ;GHEUGHEN"),
    (0x16870, "KEUYEUX;LAANAE;PARUM;VEUM;NGKINDI MVOP;NGGEU MBU;WUAET;SAKEUAE;TAAM;MEUQ;NGGUOQ"),
    (0x1687b, "NGGUOQ LARGE;MFIYAQ;SUE;MBEURI;MONTIEEN;NYAEMAE;PUNGAAM;MEUT NGGEET;FEUX;MBUOQ"),
    (0x16885, "FEE;KEUAEM;MA NJEUAENA;MA NJUQA;LET;NGGAAM;NSEN;MA;KIQ;NGOM")]⟩,
  ⟨"BAMUM LETTER PHASE-C ", [
    (0x1688f, "NGKUE MAEMBA;NZA;YUM;WANGKUOQ;NGGEN;NDEUAEREE;NGKAQ;GHARAE;MBEEKEET;GBAYI"),
    (0x16899, "NYIR MKPARAQ MEUN;NTU MBIT;MBEUM;PIRIEEN;NDOMBU;MBAA CABBAGE-TREE;KEUSHEUAEP"),
    (0x168a0, "GHAP;KEUKAQ;YU MUOMAE;NZEUM;MBUE;NSEUAEN;MBIT;YEUQ;KPARAQ;KAA;SEUX;NDIDA;TAASHAE"),
    (0x168ad, "NJUEQ;TITA YUE;SUAET;NGGUAEN NYAM;VEUX;NANSANAQ;MA KEUAERI;NTAA;NGGUON;LAP"),
    (0x168b7, "MBIRIEEN;MGBASAQ;NTEUNGBA;TEUTEUX;NGGUM;FUE;NDEUT;NSA;NSHAQ;BUNG;VEUAEPEN;MBERAE"),
    (0x168c3, "RU;NJAEM;LAM;TITUAEP;NSUOT NGOM;NJEEEE;KET;NGGU;MAESI;MBUAEM;LU;KUT;NJAM;NGOM"),
    (0x168d1, "WUP;NGGUEET;NSOM;NTEN;KUOP NKAARAE;NSUN;NDAM;MA NSIEE;YAA;NDAP;SHUEQ;SETFON;MBI"),
    (0x168de, "MAEMBA;MBANYI;KEUSEUX;MBEUX;KEUM;MBAA PICKET;YUWOQ;NJEUX;MIEE;MUAE;SHIQ;KEN LAW"),
    (0x168ea, "KEN FATIGUE;NGAQ;NAQ;LIQ;PIN;PEN;TET")]⟩,
  ⟨"BAMUM LETTER PHASE-D ", [
    (0x168f1, "MBUO;WAP;NJI;MFON;NJIEE;LIEE;NJEUT;NSHEE;NGGAAMAE;NYAM;WUAEN;NGKUN;SHEE;NGKAP"),
    (0x168ff, "KEUAETMEUN;TEUT;SHEUAE;NJAP;SUE;KET;YAEMMAE;KUOM;SAP;MFEUT;NDEUX;MALEERI;MEUT"),
    (0x1690c, "SEUAEQ;YEN;NJEUAEM;KEUOT MBUAE;NGKEURI;TU;GHAA;NGKYEE;FEUFEUAET;NDEE;MGBOFUM"),
    (0x16917, "LEUAEP;NDON;MONI;MGBEUN;PUUT;MGBIEE;MFO;LUM;NSIEEP;MBAA;KWAET;NYET;TEUAEN;SOT"),
    (0x16925, "YUWOQ;KEUM;RAEM;TEEEE;NGKEUAEQ;MFEUAE;NSIEET;KEUP;PIP;PEUTAE;NYUE;LET;NGGAAM"),
    (0x16932, "MFIEE;NGGWAEN;YUOM;PAP;YUOP;NDAM;NTEUM;SUAE;KUN;NGGEUX;NGKIEE;TUOT;MEUN;KUQ;NSUM"),
    (0x16941, "TEUN;MAENJET;NGGAP;LEUM;NGGUOM;NSHUT;NJUEQ;GHEUAE;KU;REN OLD;TAE;TOQ;NYI;RII"),
    (0x1694f, "LEEEE;MEEEE;M;SUU;MU;SHII;SHEUX;KYEE;NU;SHU;NTEE;PEE;NI;SHOQ;PUQ;MVOP;LOQ"),
    (0x16960, "REN MUCH;TI;NTUU;MBAA SEVEN;SAQ;FAA")]⟩,
  ⟨"BAMUM LETTER PHASE-E ", [
    (0x16966, "NDAP;TOON;MBEUM;LAP;VOM;LOON;PAA;SOM;RAQ;NSHUOP;NDUN;PUAE;TAM;NGKA;KPEUX;WUO;SEE"),
    (0x16977, "NGGEUAET;PAAM;TOO;KUOP;LOM;NSHIEE;NGOP;MAEM;NGKEUX;NGOQ;NSHUE;RIMGBA;NJEUX;PEEM"),
    (0x16985, "SAA;NGGURAE;MGBA;GHEUX;NGKEUAEM;NJAEMLI;MAP;LOOT;NGGEEEE;NDIQ;TAEN NTEUM;SET;PUM"),
    (0x16992, "NDAA SOFTNESS;NGGUAESHAE NYAM;YIEE;GHEUN;TUAE;YEUAE;PO;TUMAE;KEUAE;SUAEN;TEUAEQ"),
    (0x1699d, "VEUAE;WEUX;LAAM;PU;TAAQ;GHAAMAE;NGEUREUT;SHEUAEQ;MGBEN;MBEE;NZAQ;NKOM;GBET;TUM"),
    (0x169ab, "KUET;YAP;NYI CLEAVER;YIT;MFEUQ;NDIAQ;PIEEQ;YUEQ;LEUAEM;FUE;GBEUX;NGKUP;KET;MAE"),
    (0x169b9, "NGKAAMI;GHET;FA;NTUM;PEUT;YEUM;NGGEUAE;NYI BETWEEN;NZUQ;POON;MIEE;FUET;NAE;MUAE"),
    (0x169c7, "GHEUAE;FU I;MVI;PUAQ;NGKUM;KUT;PIET;NTAP;YEUAET;NGGUP;PA PEOPLE;FU CALL;FOM;NJEE"),
    (0x169d5, "A;TOQ;O;I;LAQ;PA PLURAL;TAA;TAQ;NDAA MY HOUSE;SHIQ;YEUX;NGUAE;YUAEN;YOQ SWIMMING"),
    (0x169e3, "YOQ COVER;YUQ;YUN;KEUX;PEUX;NJEE EPOCH;PUE;WUE;FEE;VEE;LU;MI;REUX;RAE;NGUAET;NGA"),
    (0x169f3, "SHO;SHOQ;FU REMEDY;NA;PI;LOQ;KO;MEN;MA;MAQ;TEU;KI;MON;TEN;FAQ;GHOM")]⟩,
  ⟨"BAMUM LETTER PHASE-F ", [
    (0x16a03, "KA;U;KU;EE;REE;TAE;NYI;LA;RII;RIEE;MEEEE;TAA;NDAA;NJAEM;M;SUU;SHII;SI;SEUX;KYEE"),
    (0x16a17, "KET;NUAE;NU;NJUAE;YOQ;SHU;YA;NSHA;PEUX;NTEE;WUE;PEE;RU;NI;REUX;KEN;NGKWAEN;NGGA"),
    (0x16a29, "SHO;PUAE;FOM;WA;LI;LOQ;KO;MBEN;REN;MA;MO;MBAA;TET;KPA;SAMBA;VUEQ")]⟩,
  ⟨"MRO LETTER ", [
    (0x16a40, "TA;NGI;YO;MIM;BA;DA;A;PHI;KHAI;HAO;DAI;CHU;KEAAE;OL;MAEM;NIN;PA;OO;O;RO;SHI;THEA"),
    (0x16a56, "EA;WA;E;KO;LAN;LA;HAI;RI;TEK")]⟩,
  ⟨"MRO DIGIT ", [(0x16a60, "ZERO;ONE;TWO;THREE;FOUR;FIVE;SIX;SEVEN;EIGHT;NINE")]⟩,
  ⟨"MRO ", [(0x16a6e, "DANDA;DOUBLE DANDA")]⟩,
  ⟨"TANGSA LETTER ", [
    (0x16a70, "OZ;OC;OQ;OX;AZ;AC;AQ;AX;VZ;VC;VQ;VX;EZ;EC;EQ;EX;IZ;IC;IQ;IX;UZ;UC;UQ;UX;AWZ;AWC"),
    (0x16a8a, "AWQ;AWX;UIZ;UIC;UIQ;UIX;FINAL NG;LONG UEX;SHORT UEZ;SHORT AWX;UEC;UEZ;UEQ;UEX"),
    (0x16a98, "UIUZ;UIUC;UIUQ;UIUX;MZ;MC;MQ;MX;KA;KHA;GA;NGA;SA;YA;WA;PA;NYA;PHA;BA;MA;NA;HA;LA"),
    (0x16aaf, "HTA;TA;DA;RA;NHA;SHA;CA;TSA;GHA;HTTA;THA;XA;FA;DHA;CHA;ZA")]⟩,
  ⟨"TANGSA DIGIT ", [(0x16ac0, "ZERO;ONE;TWO;THREE;FOUR;FIVE;SIX;SEVEN;EIGHT;NINE")]⟩,
  ⟨"BASSA VAH LETTER ", [
    (0x16ad0, "ENNI;KA;SE;FA;MBE;YIE;GAH;DHII;KPAH;JO;HWAH;WA;ZO;GBU;DO;CE;UWU;TO;BA;VU;YEIN;PA"),
    (0x16ae6, "WADDA;A;O;OO;U;EE;E;I")]⟩,
  ⟨"BASSA VAH COMBINING ", [(0x16af0, "HIGH TONE;LOW TONE;MID TONE;LOW-MID TONE;HIGH-LOW TONE")]⟩,
  ⟨"BASSA VAH ", [(0x16af5, "FULL STOP")]⟩,
  ⟨"PAHAWH HMONG VOWEL ", [
    (0x16b00, "KEEB;KEEV;KIB;KIV;KAUB;KAUV;KUB;KUV;KEB;KEV;KAIB;KAIV;KOOB;KOOV;KAWB;KAWV;KUAB"),
    (0x16b11, "KUAV;KOB;KOV;KIAB;KIAV;KAB;KAV;KWB;KWV;KAAB;KAAV")]⟩,
  ⟨"PAHAWH HMONG CONSONANT ", [
    (0x16b1c, "VAU;NTSAU;LAU;HAU;NLAU;RAU;NKAU;QHAU;YAU;HLAU;MAU;CHAU;NCHAU;HNAU;PLHAU;NTHAU"),
    (0x16b2c, "NAU;AU;XAU;CAU")]⟩,
  ⟨"PAHAWH HMONG MARK ", [(0x16b30, "CIM TUB;CIM SO;CIM KES;CIM KHAV;CIM SUAM;CIM HOM;CIM TAUM")]⟩,
  ⟨"PAHAWH HMONG SIGN ", [
    (0x16b37, "VOS THOM;VOS TSHAB CEEB;CIM CHEEM;VOS THIAB;VOS FEEM;XYEEM NTXIV;XYEEM RHO"),
    (0x16b3e, "XYEEM TOV;XYEEM FAIB;VOS SEEV;MEEJ SUAB;VOS NRUA;IB YAM;XAUS;CIM TSOV ROG"),
    (0x16b63, "VOS LUB;XYOO;HLI;THIRD-STAGE HLI;ZWJ THAJ;HNUB;NQIG;XIAB;NTUJ;AV;TXHEEJ CEEV"),
    (0x16b6e, "MEEJ TSEEB;TAU;LOS;MUS;CIM HAIS LUS NTOG NTOG;CIM CUAM TSHOOJ;CIM TXWV"),
    (0x16b75, "CIM TXWV CHWV;CIM PUB DAWB;CIM NRES TOS")]⟩,
  ⟨"PAHAWH HMONG DIGIT ", [(0x16b50, "ZERO;ONE;TWO;THREE;FOUR;FIVE;SIX;SEVEN;EIGHT;NINE")]⟩,
  ⟨"PAHAWH HMONG NUMBER ", [
    (0x16b5b, "TENS;HUNDREDS;TEN THOUSANDS;MILLIONS;HUNDRED MILLIONS;TEN BILLIONS;TRILLIONS")]⟩,
  ⟨"PAHAWH HMONG CLAN SIGN ", [
    (0x16b7d, "TSHEEJ;YEEG;LIS;LAUJ;XYOOJ;KOO;HAWJ;MUAS;THOJ;TSAB;PHAB;KHAB;HAM;VAJ;FAJ;YAJ"),
    (0x16b8d, "TSWB;KWM;VWJ")]⟩,
  ⟨"MEDEFAIDRIN CAPITAL LETTER ", [
    (0x16e40, "M;S;V;W;ATIU;Z;KP;P;T;G;F;I;K;A;J;E;B;C;U;YU;L;Q;HP;NY;X;D;OE;N;R;O;AI;Y")]⟩,
  ⟨"MEDEFAIDRIN SMALL LETTER ", [
    (0x16e60, "M;S;V;W;ATIU;Z;KP;P;T;G;F;I;K;A;J;E;B;C;U;YU;L;Q;HP;NY;X;D;OE;N;R;O;AI;Y")]⟩,
  ⟨"MEDEFAIDRIN DIGIT ", [
    (0x16e80, "ZERO;ONE;TWO;THREE;FOUR;FIVE;SIX;SEVEN;EIGHT;NINE"),
    (0x16e94, "ONE ALTERNATE FORM;TWO ALTERNATE FORM;THREE ALTERNATE FORM")]⟩,
  ⟨"MEDEFAIDRIN NUMBER ", [
    (0x16e8a, "TEN;ELEVEN;TWELVE;THIRTEEN;FOURTEEN;FIFTEEN;SIXTEEN;SEVENTEEN;EIGHTEEN;NINETEEN")]⟩,
  ⟨"MEDEFAIDRIN ", [(0x16e97, "COMMA;FULL STOP;SYMBOL AIVA;EXCLAMATION OH")]⟩,
  ⟨"MIAO LETTER ", [
    (0x16f00, "PA;BA;YI PA;PLA;MA;MHA;;FA;VA;VFA;TA;DA;YI TTA;YI TA;TTA;DDA;NA;NHA;YI NNA;;NNA"),
    (0x16f15, "NNHA;LA;LYA;LHA;LHYA;TLHA;DLHA;TLHYA;DLHYA;KA;GA;YI KA;QA;QGA;NGA;NGHA;;HA;XA"),
    (0x16f28, "GHA;GHHA;TSSA;DZZA;NYA;NYHA;TSHA;DZHA;YI TSHA;YI DZHA;;SHA;SSA;ZHA;ZSHA;TSA;DZA"),
    (0x16f39, "YI TSA;SA;ZA;ZSA;ZZA;ZZSA;;ZZYA;ZZSYA;WA;AH;HHA;BRI;SYI;DZYI;TE;TSE;RTE"),
    (0x16f50, "NASALIZATION"), (0x16f93, "TONE-2;TONE-3;TONE-4;TONE-5;TONE-6;TONE-7;TONE-8")]⟩,
  ⟨"MIAO LETTER ARCHAIC ", [(0x16f06, "MA"), (0x16f13, "NA"), (0x16f25, "NGA"), (0x16f3f, "ZZA")]⟩,
  ⟨"MIAO LETTER REFORMED ", [
    (0x16f32, "TSHA"), (0x16f9a, "TONE-1;TONE-2;TONE-4;TONE-5;TONE-6;TONE-8")]⟩,
  ⟨"MIAO ", [
    (0x16f4f, "SIGN CONSONANT MODIFIER BAR;;SIGN ASPIRATION;SIGN REFORMED VOICING"),
    (0x16f53, "SIGN REFORMED ASPIRATION"), (0x16f8f, "TONE RIGHT;TONE TOP RIGHT;TONE ABOVE"),
    (0x16f92, "TONE BELOW")]⟩,
  ⟨"MIAO VOWEL SIGN ", [
    (0x16f54, "A;AA;AHH;AN;ANG;O;OO;WO;W;E;EN;ENG;OEY;I;IA;IAN;IANG;IO;IE;II;IU;ING;U;UA;UAN"),
    (0x16f6d, "UANG;UU;UEI;UNG;Y;YI;AE;AEE;ERR;ROUNDED ERR;ER;ROUNDED ER;AI;EI;AU;OU;N;NG;UOG"),
    (0x16f80, "YUI;OG;OER;VW;IG;EA;IONG;UI")]⟩,
  ⟨"", [
    (0x16fe0, "TANGUT ITERATION MARK;NUSHU ITERATION MARK;OLD CHINESE HOOK MARK"),
    (0x16fe3, "OLD CHINESE ITERATION MARK;KHITAN SMALL SCRIPT FILLER"),
    (0x16ff0, "VIETNAMESE ALTERNATE READING MARK CA;VIETNAMESE ALTERNATE READING MARK NHAY")]⟩,
  ⟨"KATAKANA LETTER MINNAN ", [(0x1aff0, "TONE-2;TONE-3;TONE-4;TONE-5;;TONE-7;TONE-8")]⟩,
  ⟨"KATAKANA LETTER MINNAN NASALIZED ", [
    (0x1aff7, "TONE-1;TONE-2;TONE-3;TONE-4;TONE-5;;TONE-7;TONE-8")]⟩,
  ⟨"KATAKANA LETTER ", [
    (0x1b000, "ARCHAIC E"), (0x1b120, "ARCHAIC YI;ARCHAIC YE;ARCHAIC WU"), (0x1b164, "SMALL WI"),
    (0x1b165, "SMALL WE;SMALL WO;SMALL N")]⟩,
  ⟨"HIRAGANA LETTER ", [
    (0x1b001, "ARCHAIC YE"), (0x1b11f, "ARCHAIC WU"), (0x1b150, "SMALL WI;SMALL WE;SMALL WO")]⟩,
  ⟨"HENTAIGANA LETTER ", [
    (0x1b002, "A-1;A-2;A-3;A-WO;I-1;I-2;I-3;I-4;U-1;U-2;U-3;U-4;U-5;E-2;E-3;E-4;E-5;E-6;O-1;O-2"),
    (0x1b016, "O-3;KA-1;KA-2;KA-3;KA-4;KA-5;KA-6;KA-7;KA-8;KA-9;KA-10;KA-11;KA-KE;KI-1;KI-2"),
    (0x1b025, "KI-3;KI-4;KI-5;KI-6;KI-7;KI-8;KU-1;KU-2;KU-3;KU-4;KU-5;KU-6;KU-7;KE-1;KE-2;KE-3"),
    (0x1b035, "KE-4;KE-5;KE-6;KO-1;KO-2;KO-3;KO-KI;SA-1;SA-2;SA-3;SA-4;SA-5;SA-6;SA-7;SA-8;SI-1"),
    (0x1b045, "SI-2;SI-3;SI-4;SI-5;SI-6;SU-1;SU-2;SU-3;SU-4;SU-5;SU-6;SU-7;SU-8;SE-1;SE-2;SE-3"),
    (0x1b055, "SE-4;SE-5;SO-1;SO-2;SO-3;SO-4;SO-5;SO-6;SO-7;TA-1;TA-2;TA-3;TA-4;TI-1;TI-2;TI-3"),
    (0x1b065, "TI-4;TI-5;TI-6;TI-7;TU-1;TU-2;TU-3;TU-4;TU-TO;TE-1;TE-2;TE-3;TE-4;TE-5;TE-6;TE-7"),
    (0x1b075, "TE-8;TE-9;TO-1;TO-2;TO-3;TO-4;TO-5;TO-6;TO-RA;NA-1;NA-2;NA-3;NA-4;NA-5;NA-6;NA-7"),
    (0x1b085, "NA-8;NA-9;NI-1;NI-2;NI-3;NI-4;NI-5;NI-6;NI-7;NI-TE;NU-1;NU-2;NU-3;NE-1;NE-2;NE-3"),
    (0x1b095, "NE-4;NE-5;NE-6;NE-KO;NO-1;NO-2;NO-3;NO-4;NO-5;HA-1;HA-2;HA-3;HA-4;HA-5;HA-6;HA-7"),
    (0x1b0a5, "HA-8;HA-9;HA-10;HA-11;HI-1;HI-2;HI-3;HI-4;HI-5;HI-6;HI-7;HU-1;HU-2;HU-3;HE-1"),
    (0x1b0b4, "HE-2;HE-3;HE-4;HE-5;HE-6;HE-7;HO-1;HO-2;HO-3;HO-4;HO-5;HO-6;HO-7;HO-8;MA-1;MA-2"),
    (0x1b0c4, "MA-3;MA-4;MA-5;MA-6;MA-7;MI-1;MI-2;MI-3;MI-4;MI-5;MI-6;MI-7;MU-1;MU-2;MU-3;MU-4"),
    (0x1b0d4, "ME-1;ME-2;ME-MA;MO-1;MO-2;MO-3;MO-4;MO-5;MO-6;YA-1;YA-2;YA-3;YA-4;YA-5;YA-YO"),
    (0x1b0e3, "YU-1;YU-2;YU-3;YU-4;YO-1;YO-2;YO-3;YO-4;YO-5;YO-6;RA-1;RA-2;RA-3;RA-4;RI-1;RI-2"),
    (0x1b0f3, "RI-3;RI-4;RI-5;RI-6;RI-7;RU-1;RU-2;RU-3;RU-4;RU-5;RU-6;RE-1;RE-2;RE-3;RE-4;RO-1"),
    (0x1b103, "RO-2;RO-3;RO-4;RO-5;RO-6;WA-1;WA-2;WA-3;WA-4;WA-5;WI-1;WI-2;WI-3;WI-4;WI-5;WE-1"),
    (0x1b113, "WE-2;WE-3;WE-4;WO-1;WO-2;WO-3;WO-4;WO-5;WO-6;WO-7;N-MU-MO-1;N-MU-MO-2")]⟩,
  ⟨"DUPLOYAN LETTER ", [
    (0x1bc00, "H;X;P;T;F;K;L;B;D;V;G;R;P N;D S;F N;K M;R S;TH;;DH;KK;;HL;LH;RH;M;N;J;S;M N;N M"),
    (0x1bc1f, "J M;S J;M WITH DOT;N WITH DOT;J WITH DOT;J WITH DOTS INSIDE AND ABOVE;S WITH DOT"),
    (0x1bc26, "S WITH DOT BELOW;M S;N S;J S;S S;M N S;N M S;J M S;S J S;J S WITH DOT;J N;J N S"),
    (0x1bc32, "S T;S T R;S P;S P R;T S;T R S;W;WH;W R;S N;S M;K R S;G R S;S K;S K R;A;;OA;O;AOU"),
    (0x1bc46, "I;E;IE;SHORT I;UI;EE;;ROMANIAN I;;LONG I;YE;U;EU;XW;U N;LONG U;ROMANIAN U;UH"),
    (0x1bc59, "OOH;OW;OU;WA;WO;WI;WEI;WOW;NASAL U;NASAL O;NASAL I;NASAL A;PERNIN AN;PERNIN AM"),
    (0x1bc6a, "VOCALIC M")]⟩,
  ⟨"DUPLOYAN LETTER SLOAN ", [
    (0x1bc12, "DH;;;J"), (0x1bc42, "OW"), (0x1bc4c, "EH;;EE"), (0x1bc58, "U"), (0x1bc67, "EN;AN"),
    (0x1bc69, "ON")]⟩,
  ⟨"DUPLOYAN AFFIX ", [
    (0x1bc70, "LEFT HORIZONTAL SECANT;MID HORIZONTAL SECANT;RIGHT HORIZONTAL SECANT"),
    (0x1bc74, "MID VERTICAL SECANT")]⟩,
  ⟨"DUPLOYAN AFFIX LOW ", [
    (0x1bc73, "VERTICAL SECANT"), (0x1bc90, "ACUTE;TIGHT ACUTE;GRAVE;LONG GRAVE;DOT;CIRCLE;LINE"),
    (0x1bc97, "WAVE;VERTICAL;ARROW")]⟩,
  ⟨"DUPLOYAN AFFIX HIGH ", [
    (0x1bc75, "VERTICAL SECANT"), (0x1bc80, "ACUTE;TIGHT ACUTE;GRAVE;LONG GRAVE;DOT;CIRCLE;LINE"),
    (0x1bc87, "WAVE;VERTICAL")]⟩,
  ⟨"DUPLOYAN AFFIX ATTACHED ", [
    (0x1bc76, "SECANT;LEFT-TO-RIGHT SECANT;TANGENT;TAIL;E HOOK;I HOOK;TANGENT HOOK")]⟩,
  ⟨"DUPLOYAN ", [
    (0x1bc9c, "SIGN O WITH CROSS;THICK LETTER SELECTOR;DOUBLE MARK"),
    (0x1bc9f, "PUNCTUATION CHINOOK FULL STOP")]⟩,
  ⟨"SHORTHAND ", [
    (0x1bca0, "FORMAT LETTER OVERLAP;FORMAT CONTINUING OVERLAP;FORMAT DOWN STEP;FORMAT UP STEP")]⟩,
  ⟨"ZNAMENNY COMBINING MARK ", [
    (0x1cf00, "GORAZDO NIZKO S KRYZHEM ON LEFT;NIZKO S KRYZHEM ON LEFT;TSATA ON LEFT"),
    (0x1cf03, "GORAZDO NIZKO ON LEFT;NIZKO ON LEFT;SREDNE ON LEFT;MALO POVYSHE ON LEFT"),
    (0x1cf08, "VYSOKO ON LEFT;MALO POVYSHE S KHOKHLOM ON LEFT;;VYSOKO S KHOKHLOM ON LEFT"),
    (0x1cf0c, "GORAZDO NIZKO S KRYZHEM ON RIGHT;NIZKO S KRYZHEM ON RIGHT;TSATA ON RIGHT"),
    (0x1cf0f, "GORAZDO NIZKO ON RIGHT;NIZKO ON RIGHT;SREDNE ON RIGHT;MALO POVYSHE ON RIGHT"),
    (0x1cf14, "VYSOKO ON RIGHT;MALO POVYSHE S KHOKHLOM ON RIGHT;;VYSOKO S KHOKHLOM ON RIGHT"),
    (0x1cf18, "TSATA S KRYZHEM;MALO POVYSHE S KRYZHEM;STRANNO MALO POVYSHE;;;VYSOKO S KRYZHEM"),
    (0x1cf1e, "MALO POVYSHE STRANNO;GORAZDO VYSOKO;ZELO;ON;RAVNO;TIKHAYA;BORZAYA;UDARKA"),
    (0x1cf26, "PODVERTKA;LOMKA;KUPNAYA;KACHKA;ZEVOK;SKOBA;RAZSEKA;KRYZH ON LEFT;;;;;;ZADERZHKA"),
    (0x1cf34, "DEMESTVENNY ZADERZHKA;OTSECHKA;PODCHASHIE;PODCHASHIE WITH VERTICAL STROKE"),
    (0x1cf38, "CHASHKA;CHASHKA POLNAYA;OBLACHKO;SOROCHYA NOZHKA;TOCHKA;DVOETOCHIE;;CURVED OMET"),
    (0x1cf40, "KRYZH")]⟩,
  ⟨"ZNAMENNY COMBINING MARK POVYSHE ", [
    (0x1cf07, "ON LEFT;;;S KHOKHLOM ON LEFT"), (0x1cf13, "ON RIGHT;;;S KHOKHLOM ON RIGHT"),
    (0x1cf1b, "S KRYZHEM;STRANNO")]⟩,
  ⟨"ZNAMENNY COMBINING ", [
    (0x1cf30, "TONAL RANGE MARK MRACHNO;TONAL RANGE MARK SVETLO;TONAL RANGE MARK TRESVETLO"),
    (0x1cf3e, "ATTACHING VERTICAL OMET;;;LOWER TONAL RANGE INDICATOR")]⟩,
  ⟨"ZNAMENNY PRIZNAK MODIFIER ", [(0x1cf42, "LEVEL-2;LEVEL-3;DIRECTION FLIP;KRYZH;ROG")]⟩,
  ⟨"ZNAMENNY NEUME ", [
    (0x1cf50, "KRYUK;KRYUK TIKHY;PARAKLIT;DVA V CHELNU;KLYUCH;ZANOZHEK;STOPITSA"),
    (0x1cf57, "STOPITSA S OCHKOM;PEREVODKA;PEREVODKA NEPOSTOYANNAYA"),
    (0x1cf5a, "STOPITSA WITH SOROCHYA NOZHKA;CHELYUSTKA;PALKA;ZAPYATAYA"),
    (0x1cf6b, "DOUBLE ZAPYATAYA;REVERSED CHELYUSTKA;DERBITSA;KHAMILO;CHASHKA;PODCHASHIE"),
    (0x1cf75, "DEMESTVENNY KLYUCH;;;;;;;;SLOZHITIE;SLOZHITIE S ZAPYATOY;SLOZHITIE ZAKRYTOE"),
    (0x1cf80, "SLOZHITIE S KRYZHEM;KRYZH;ROG;FITA;KOBYLA;ZMEYTSA;STATYA"),
    (0x1cf90, "POLKULIZMY"), (0x1cfa7, "MECHIK;MECHIK POVODNY;MECHIK KLYUCHEVOY"),
    (0x1cfaa, "MECHIK KLYUCHEPOVODNY;MECHIK KLYUCHENEPOSTOYANNY;;;;OSOKA;OSOKA SVETLAYA"),
    (0x1cfb1, "OSOKA TRESVETLAYA;OSOKA KRYUKOVAYA SVETLAYA;OSOKA KLYUCHEVAYA SVETLAYA"),
    (0x1cfb4, "OSOKA KLYUCHEVAYA NEPOSTOYANNAYA"), (0x1cfbf, "KUFISMA;OBLAKO;DUDA;NEMKA;PAUK")]⟩,
  ⟨"ZNAMENNY NEUME GOLUBCHIK ", [(0x1cf5e, "BORZY;TIKHY;MRACHNY;SVETLY;TRESVETLY")]⟩,
  ⟨"ZNAMENNY NEUME VRAKHIYA ", [(0x1cf63, "PROSTAYA;MRACHNAYA;SVETLAYA;TRESVETLAYA")]⟩,
  ⟨"ZNAMENNY NEUME VRAKHIYA KLYUCHEVAYA ", [(0x1cf67, "PROSTAYA;MRACHNAYA;SVETLAYA;TRESVETLAYA")]⟩,
  ⟨"ZNAMENNY NEUME SKAMEYTSA ", [
    (0x1cf71, "MRACHNAYA;SVETLAYA;TRESVETLAYA;TIKHAYA;;KLYUCHEVAYA SVETLAYA"),
    (0x1cf77, "KLYUCHENEPOSTOYANNAYA;KLYUCHEVAYA TIKHAYA")]⟩,
  ⟨"ZNAMENNY NEUME SKAMEYTSA DVOECHELNAYA ", [
    (0x1cf79, "PROSTAYA;SVETLAYA;NEPOSTOYANNAYA;KLYUCHEVAYA")]⟩,
  ⟨"ZNAMENNY NEUME STATYA ", [
    (0x1cf87, "S ZAPYATOY;S KRYZHEM;S ZAPYATOY I KRYZHEM;S KRYZHEM I ZAPYATOY;ZAKRYTAYA"),
    (0x1cf8c, "ZAKRYTAYA S ZAPYATOY;S ROGOM;S DVUMYA ZAPYATYMI;S ZAPYATOY I PODCHASHIEM"),
    (0x1cf91, "NEPOSTOYANNAYA")]⟩,
  ⟨"ZNAMENNY NEUME STRELA ", [
    (0x1cf92, "PROSTAYA;MRACHNOTIKHAYA;KRYZHEVAYA;POLUPOVODNAYA;POVODNAYA;NEPOSTOYANNAYA"),
    (0x1cf98, "KLYUCHEPOVODNAYA;KLYUCHENEPOSTOYANNAYA;TIKHAYA PUTNAYA;DVOECHELNAYA"),
    (0x1cf9c, "DVOECHELNOKRYZHEVAYA;DVOECHELNOPOVODNAYA;DVOECHELNAYA KLYUCHEVAYA"),
    (0x1cf9f, "DVOECHELNOPOVODNAYA KLYUCHEVAYA;GROMNAYA WITH SINGLE ZAPYATAYA"),
    (0x1cfa1, "GROMOPOVODNAYA WITH SINGLE ZAPYATAYA;GROMNAYA;GROMOPOVODNAYA"),
    (0x1cfa4, "GROMOPOVODNAYA WITH DOUBLE ZAPYATAYA;GROMOKRYZHEVAYA;GROMOKRYZHEVAYA POVODNAYA"),
    (0x1cfac, "TRYASOGLASNAYA;TRYASOPOVODNAYA;TRYASOSTRELNAYA;;;;;;;KRYUKOVAYA")]⟩,
  ⟨"ZNAMENNY NEUME STRELA KRYUKOVAYA ", [
    (0x1cfb6, "POVODNAYA;GROMNAYA WITH SINGLE ZAPYATAYA;GROMOPOVODNAYA WITH SINGLE ZAPYATAYA"),
    (0x1cfb9, "GROMNAYA;GROMOPOVODNAYA;GROMOPOVODNAYA WITH DOUBLE ZAPYATAYA;GROMOKRYZHEVAYA"),
    (0x1cfbd, "GROMOKRYZHEVAYA POVODNAYA;TRYASKA")]⟩]

end ReceiptRules.Text.CharacterName
