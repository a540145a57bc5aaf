/-!
# Classes of characters in host names, as data

One row for each range of characters: its first character in hexadecimal digits, and the class of
the characters up to the next row.
-/

namespace RealtimeClient.Idna

/-- The classes by which combining characters are ordered, in hexadecimal digits behind a `:`. -/
def combiningRows : String := "
0:0 300:E6 315:E8 316:DC 31A:E8 31B:D8 31C:DC 321:CA 323:DC 327:CA 329:DC 334:1 339:DC 33D:E6
345:F0 346:E6 347:DC 34A:E6 34D:DC 34F:0 350:E6 353:DC 357:E6 358:E8 359:DC 35B:E6 35C:E9 35D:EA
35F:E9 360:EA 362:E9 363:E6 370:0 483:E6 488:0 591:DC 592:E6 596:DC 597:E6 59A:DE 59B:DC 59C:E6
5A2:DC 5A8:E6 5AA:DC 5AB:E6 5AD:DE 5AE:E4 5AF:E6 5B0:A 5B1:B 5B2:C 5B3:D 5B4:E 5B5:F 5B6:10 5B7:11
5B8:12 5B9:13 5BB:14 5BC:15 5BD:16 5BE:0 5BF:17 5C0:0 5C1:18 5C2:19 5C3:0 5C4:E6 5C5:DC 5C6:0
5C7:12 5C8:0 5C9:E6 5CA:0 610:E6 618:1E 619:1F 61A:20 61B:0 64B:1B 64C:1C 64D:1D 64E:1E 64F:1F
650:20 651:21 652:22 653:E6 655:DC 657:E6 65C:DC 65D:E6 65F:DC 660:0 670:23 671:0 6D6:E6 6DD:0
6DF:E6 6E3:DC 6E4:E6 6E5:0 6E7:E6 6E9:0 6EA:DC 6EB:E6 6ED:DC 6EE:0 711:24 712:0 730:E6 731:DC
732:E6 734:DC 735:E6 737:DC 73A:E6 73B:DC 73D:E6 73E:DC 73F:E6 742:DC 743:E6 744:DC 745:E6 746:DC
747:E6 748:DC 749:E6 74B:0 7EB:E6 7F2:DC 7F3:E6 7F4:0 7FD:DC 7FE:0 816:E6 81A:0 81B:E6 824:0
825:E6 828:0 829:E6 82E:0 859:DC 85C:0 897:E6 899:DC 89C:E6 8A0:0 8CA:E6 8CF:DC 8D4:E6 8E2:0
8E3:DC 8E4:E6 8E6:DC 8E7:E6 8E9:DC 8EA:E6 8ED:DC 8F0:1B 8F1:1C 8F2:1D 8F3:E6 8F6:DC 8F7:E6 8F9:DC
8FB:E6 900:0 93C:7 93D:0 94D:9 94E:0 951:E6 952:DC 953:E6 955:0 9BC:7 9BD:0 9CD:9 9CE:0 9FE:E6
9FF:0 A3C:7 A3D:0 A4D:9 A4E:0 ABC:7 ABD:0 ACD:9 ACE:0 B3C:7 B3D:0 B4D:9 B4E:0 BCD:9 BCE:0 C3C:7
C3D:0 C4D:9 C4E:0 C55:54 C56:5B C57:0 CBC:7 CBD:0 CCD:9 CCE:0 D3B:9 D3D:0 D4D:9 D4E:0 DCA:9 DCB:0
E38:67 E3A:9 E3B:0 E48:6B E4C:0 EB8:76 EBA:9 EBB:0 EC8:7A ECC:0 F18:DC F1A:0 F35:DC F36:0 F37:DC
F38:0 F39:D8 F3A:0 F71:81 F72:82 F73:0 F74:84 F75:0 F7A:82 F7E:0 F80:82 F81:0 F82:E6 F84:9 F85:0
F86:E6 F88:0 FC6:DC FC7:0 1037:7 1038:0 1039:9 103B:0 108D:DC 108E:0 135D:E6 1360:0 1714:9 1716:0
1734:9 1735:0 17D2:9 17D3:0 17DD:E6 17DE:0 18A9:E4 18AA:0 1939:DE 193A:E6 193B:DC 193C:0 1A17:E6
1A18:DC 1A19:0 1A60:9 1A61:0 1A75:E6 1A7D:0 1A7F:DC 1A80:0 1AB0:E6 1AB5:DC 1ABB:E6 1ABD:DC 1ABE:0
1ABF:DC 1AC1:E6 1AC3:DC 1AC5:E6 1ACA:DC 1ACB:E6 1ADD:DC 1ADE:0 1AE0:E6 1AE6:DC 1AE7:E6 1AEB:EA
1AEC:0 1AEF:E6 1AF0:0 1B34:7 1B35:0 1B44:9 1B45:0 1B6B:E6 1B6C:DC 1B6D:E6 1B74:0 1BAA:9 1BAC:0
1BE6:7 1BE7:0 1BF2:9 1BF4:0 1C37:7 1C38:0 1CD0:E6 1CD3:0 1CD4:1 1CD5:DC 1CDA:E6 1CDC:DC 1CE0:E6
1CE1:0 1CE2:1 1CE9:0 1CED:DC 1CEE:0 1CF4:E6 1CF5:0 1CF8:E6 1CFA:0 1DC0:E6 1DC2:DC 1DC3:E6 1DCA:DC
1DCB:E6 1DCD:EA 1DCE:D6 1DCF:DC 1DD0:CA 1DD1:E6 1DF6:E8 1DF7:E4 1DF9:DC 1DFA:DA 1DFB:E6 1DFC:E9
1DFD:DC 1DFE:E6 1DFF:DC 1E00:0 20D0:E6 20D2:1 20D4:E6 20D8:1 20DB:E6 20DD:0 20E1:E6 20E2:0 20E5:1
20E7:E6 20E8:DC 20E9:E6 20EA:1 20EC:DC 20F0:E6 20F1:0 2CEF:E6 2CF2:0 2D7F:9 2D80:0 2DE0:E6 2E00:0
302A:DA 302B:E4 302C:E8 302D:DE 302E:E0 3030:0 3099:8 309B:0 A66F:E6 A670:0 A674:E6 A67E:0 A69E:E6
A6A0:0 A6F0:E6 A6F2:0 A806:9 A807:0 A82C:9 A82D:0 A8C4:9 A8C5:0 A8E0:E6 A8F2:0 A92B:DC A92E:0
A953:9 A954:0 A9B3:7 A9B4:0 A9C0:9 A9C1:0 AAB0:E6 AAB1:0 AAB2:E6 AAB4:DC AAB5:0 AAB7:E6 AAB9:0
AABE:E6 AAC0:0 AAC1:E6 AAC2:0 AAF6:9 AAF7:0 ABED:9 ABEE:0 FB1E:1A FB1F:0 FE20:E6 FE27:DC FE2E:E6
FE30:0 101FD:DC 101FE:0 102E0:DC 102E1:0 10376:E6 1037B:0 10A0D:DC 10A0E:0 10A0F:E6 10A10:0
10A38:E6 10A39:1 10A3A:DC 10A3B:0 10A3F:9 10A40:0 10AE5:E6 10AE6:DC 10AE7:0 10D24:E6 10D28:0
10D69:E6 10D6E:0 10EAB:E6 10EAD:0 10EFA:DC 10EFC:0 10EFD:DC 10F00:0 10F46:DC 10F48:E6 10F4B:DC
10F4C:E6 10F4D:DC 10F51:0 10F82:E6 10F83:DC 10F84:E6 10F85:DC 10F86:0 11046:9 11047:0 11070:9
11071:0 1107F:9 11080:0 110B9:9 110BA:7 110BB:0 11100:E6 11103:0 11133:9 11135:0 11173:7 11174:0
111C0:9 111C1:0 111CA:7 111CB:0 11235:9 11236:7 11237:0 112E9:7 112EA:9 112EB:0 1133B:7 1133D:0
1134D:9 1134E:0 11366:E6 1136D:0 11370:E6 11375:0 113CE:9 113D1:0 11442:9 11443:0 11446:7 11447:0
1145E:E6 1145F:0 114C2:9 114C3:7 114C4:0 115BF:9 115C0:7 115C1:0 1163F:9 11640:0 116B6:9 116B7:7
116B8:0 1172B:9 1172C:0 11839:9 1183A:7 1183B:0 1193D:9 1193F:0 11943:7 11944:0 119E0:9 119E1:0
11A34:9 11A35:0 11A47:9 11A48:0 11A99:9 11A9A:0 11C3F:9 11C40:0 11D42:7 11D43:0 11D44:9 11D46:0
11D97:9 11D98:0 11F41:9 11F43:0 1612F:9 16130:0 16AF0:1 16AF5:0 16B30:E6 16B37:0 16FF0:6 16FF2:0
1BC9E:1 1BC9F:0 1D165:D8 1D167:1 1D16A:0 1D16D:E2 1D16E:D8 1D173:0 1D17B:DC 1D183:0 1D185:E6
1D18A:DC 1D18C:0 1D1AA:E6 1D1AE:0 1D242:E6 1D245:0 1E000:E6 1E007:0 1E008:E6 1E019:0 1E01B:E6
1E022:0 1E023:E6 1E025:0 1E026:E6 1E02B:0 1E08F:E6 1E090:0 1E130:E6 1E137:0 1E2AE:E6 1E2AF:0
1E2EC:E6 1E2F0:0 1E4EC:E8 1E4EE:DC 1E4EF:E6 1E4F0:0 1E5EE:E6 1E5EF:DC 1E5F0:0 1E6E3:E6 1E6E4:0
1E6E6:E6 1E6E7:0 1E6EE:E6 1E6F0:0 1E6F5:E6 1E6F6:0 1E8D0:DC 1E8D7:0 1E944:E6 1E94A:7 1E94B:0"

/-- The marks: `y` for a mark, `n` for another character. -/
def markRows : String := "
0n 300y 370n 483y 48An 591y 5BEn 5BFy 5C0n 5C1y 5C3n 5C4y 5C6n 5C7y 5C8n 5C9y 5CAn 610y 61Bn 64By
660n 670y 671n 6D6y 6DDn 6DFy 6E5n 6E7y 6E9n 6EAy 6EEn 711y 712n 730y 74Bn 7A6y 7B1n 7EBy 7F4n
7FDy 7FEn 816y 81An 81By 824n 825y 828n 829y 82En 859y 85Cn 897y 8A0n 8CAy 8E2n 8E3y 904n 93Ay
93Dn 93Ey 950n 951y 958n 962y 964n 981y 984n 9BCy 9BDn 9BEy 9C5n 9C7y 9C9n 9CBy 9CEn 9D7y 9D8n
9E2y 9E4n 9FEy 9FFn A01y A04n A3Cy A3Dn A3Ey A43n A47y A49n A4By A4En A51y A52n A70y A72n A75y
A76n A81y A84n ABCy ABDn ABEy AC6n AC7y ACAn ACBy ACEn AE2y AE4n AFAy B00n B01y B04n B3Cy B3Dn
B3Ey B45n B47y B49n B4By B4En B53y B58n B62y B64n B82y B83n BBEy BC3n BC6y BC9n BCAy BCEn BD7y
BD8n C00y C05n C3Cy C3Dn C3Ey C45n C46y C49n C4Ay C4En C55y C57n C62y C64n C81y C84n CBCy CBDn
CBEy CC5n CC6y CC9n CCAy CCEn CD5y CD7n CE2y CE4n CF3y CF4n D00y D04n D3By D3Dn D3Ey D45n D46y
D49n D4Ay D4En D57y D58n D62y D64n D81y D84n DCAy DCBn DCFy DD5n DD6y DD7n DD8y DE0n DF2y DF4n
E31y E32n E34y E3Bn E47y E4Fn EB1y EB2n EB4y EBDn EC8y ECFn F18y F1An F35y F36n F37y F38n F39y
F3An F3Ey F40n F71y F85n F86y F88n F8Dy F98n F99y FBDn FC6y FC7n 102By 103Fn 1056y 105An 105Ey
1061n 1062y 1065n 1067y 106En 1071y 1075n 1082y 108En 108Fy 1090n 109Ay 109En 135Dy 1360n 1712y
1716n 1732y 1735n 1752y 1754n 1772y 1774n 17B4y 17D4n 17DDy 17DEn 180By 180En 180Fy 1810n 1885y
1887n 18A9y 18AAn 1920y 192Cn 1930y 193Cn 1A17y 1A1Cn 1A55y 1A5Fn 1A60y 1A7Dn 1A7Fy 1A80n 1AB0y
1ADEn 1AE0y 1AECn 1AEFy 1AF0n 1B00y 1B05n 1B34y 1B45n 1B6By 1B74n 1B80y 1B83n 1BA1y 1BAEn 1BE6y
1BF4n 1C24y 1C38n 1CD0y 1CD3n 1CD4y 1CE9n 1CEDy 1CEEn 1CF4y 1CF5n 1CF7y 1CFAn 1DC0y 1E00n 20D0y
20F1n 2CEFy 2CF2n 2D7Fy 2D80n 2DE0y 2E00n 302Ay 3030n 3099y 309Bn A66Fy A673n A674y A67En A69Ey
A6A0n A6F0y A6F2n A802y A803n A806y A807n A80By A80Cn A823y A828n A82Cy A82Dn A880y A882n A8B4y
A8C6n A8E0y A8F2n A8FFy A900n A926y A92En A947y A954n A980y A984n A9B3y A9C1n A9E5y A9E6n AA29y
AA37n AA43y AA44n AA4Cy AA4En AA7By AA7En AAB0y AAB1n AAB2y AAB5n AAB7y AAB9n AABEy AAC0n AAC1y
AAC2n AAEBy AAF0n AAF5y AAF7n ABE3y ABEBn ABECy ABEEn FB1Ey FB1Fn FE00y FE10n FE20y FE30n 101FDy
101FEn 102E0y 102E1n 10376y 1037Bn 10A01y 10A04n 10A05y 10A07n 10A0Cy 10A10n 10A38y 10A3Bn 10A3Fy
10A40n 10AE5y 10AE7n 10D24y 10D28n 10D69y 10D6En 10EABy 10EADn 10EFAy 10F00n 10F46y 10F51n 10F82y
10F86n 11000y 11003n 11038y 11047n 11070y 11071n 11073y 11075n 1107Fy 11083n 110B0y 110BBn 110C2y
110C3n 11100y 11103n 11127y 11135n 11145y 11147n 11173y 11174n 11180y 11183n 111B3y 111C1n 111C9y
111CDn 111CEy 111D0n 1122Cy 11238n 1123Ey 1123Fn 11241y 11242n 112DFy 112EBn 11300y 11304n 1133By
1133Dn 1133Ey 11345n 11347y 11349n 1134By 1134En 11357y 11358n 11362y 11364n 11366y 1136Dn 11370y
11375n 113B8y 113C1n 113C2y 113C3n 113C5y 113C6n 113C7y 113CBn 113CCy 113D1n 113D2y 113D3n 113E1y
113E3n 11435y 11447n 1145Ey 1145Fn 114B0y 114C4n 115AFy 115B6n 115B8y 115C1n 115DCy 115DEn 11630y
11641n 116ABy 116B8n 1171Dy 1172Cn 1182Cy 1183Bn 11930y 11936n 11937y 11939n 1193By 1193Fn 11940y
11941n 11942y 11944n 119D1y 119D8n 119DAy 119E1n 119E4y 119E5n 11A01y 11A0Bn 11A33y 11A3An 11A3By
11A3Fn 11A47y 11A48n 11A51y 11A5Cn 11A8Ay 11A9An 11B60y 11B68n 11C2Fy 11C37n 11C38y 11C40n 11C92y
11CA8n 11CA9y 11CB7n 11D31y 11D37n 11D3Ay 11D3Bn 11D3Cy 11D3En 11D3Fy 11D46n 11D47y 11D48n 11D8Ay
11D8Fn 11D90y 11D92n 11D93y 11D98n 11EF3y 11EF7n 11F00y 11F02n 11F03y 11F04n 11F34y 11F3Bn 11F3Ey
11F43n 11F5Ay 11F5Bn 13440y 13441n 13447y 13456n 1611Ey 16130n 16AF0y 16AF5n 16B30y 16B37n 16F4Fy
16F50n 16F51y 16F88n 16F8Fy 16F93n 16FE4y 16FE5n 16FF0y 16FF2n 1BC9Dy 1BC9Fn 1CF00y 1CF2En 1CF30y
1CF47n 1D165y 1D16An 1D16Dy 1D173n 1D17By 1D183n 1D185y 1D18Cn 1D1AAy 1D1AEn 1D242y 1D245n 1DA00y
1DA37n 1DA3By 1DA6Dn 1DA75y 1DA76n 1DA84y 1DA85n 1DA9By 1DAA0n 1DAA1y 1DAB0n 1E000y 1E007n 1E008y
1E019n 1E01By 1E022n 1E023y 1E025n 1E026y 1E02Bn 1E08Fy 1E090n 1E130y 1E137n 1E2AEy 1E2AFn 1E2ECy
1E2F0n 1E4ECy 1E4F0n 1E5EEy 1E5F0n 1E6E3y 1E6E4n 1E6E6y 1E6E7n 1E6EEy 1E6F0n 1E6F5y 1E6F6n 1E8D0y
1E8D7n 1E944y 1E94Bn E0100y E01F0n"

/-- The directions: `l` for left to right, `r` and `q` for right to left, `n` and `g` for Arabic and
European digits, `m` for marks without width, `o` for what is neutral, `z` for the others. -/
def directionRows : String := "
0o 9z Eo 1Cz 21o 30g 3Ao 61l 7Bo DFl F7o F8l 2B9o 2BBl 2C2o 2D0l 2D2o 2EEl 2EFo 300m 371l 375o
377l 3F6o 3F8l 483m 48Bl 58Ao 591m 5BEr 5BFm 5C0r 5C1m 5C3r 5C4m 5C6r 5C7m 5D0r 606o 608q 609o
60Bq 60Co 60Dq 60Eo 610m 61Bq 64Bm 660n 66Ao 66Bn 66Dq 670m 671q 6D6m 6DEo 6DFm 6E5q 6E7m 6E9o
6EAm 6EEq 6F0g 6FAq 711m 712q 730m 74Dq 7A6m 7B1q 7C0r 7EBm 7F4r 7F6o 7FAr 7FDm 7FEr 816m 81Ar
81Bm 824r 825m 828r 829m 830r 859m 85Er 860q 897m 8A0q 8CAm 903l 93Am 93Bl 93Cm 93Dl 941m 949l
94Dm 94El 951m 960l 962m 964l 981m 982l 9BCm 9BDl 9C1m 9C7l 9CDm 9CEl 9E2m 9E6l 9F2o 9F4l 9FBo
9FCl 9FEm A03l A3Cm A3El A41m A5Cl A70m A72l A75m A76l A81m A83l ABCm ABDl AC1m AC9l ACDm AD0l
AE2m AE6l AF1o AF9l AFAm B02l B3Cm B3Dl B3Fm B40l B41m B47l B4Dm B57l B62m B66l B82m B83l BC0m
BC1l BCDm BD0l BF3o C00m C01l C04m C05l C3Cm C3Dl C3Em C41l C46m C58l C62m C66l C78o C7Fl C81m
C82l CBCm CBDl CCCm CD5l CE2m CE6l D00m D02l D3Bm D3Dl D41m D46l D4Dm D4El D62m D66l D81m D82l
DCAm DCFl DD2m DD8l E31m E32l E34m E3Fo E40l E47m E4Fl EB1m EB2l EB4m EBDl EC8m ED0l F18m F1Al
F35m F36l F37m F38l F39m F3Ao F3El F71m F7Fl F80m F85l F86m F88l F8Dm FBEl FC6m FC7l 102Dm 1031l
1032m 1038l 1039m 103Bl 103Dm 103Fl 1058m 105Al 105Em 1061l 1071m 1075l 1082m 1083l 1085m 1087l
108Dm 108El 109Dm 109El 135Dm 1360l 1390o 13A0l 1400o 1401l 169Bo 16A0l 1712m 1715l 1732m 1734l
1752m 1760l 1772m 1780l 17B7m 17BEl 17C6m 17C7l 17C9m 17D4l 17DBo 17DCl 17DDm 17E0l 17F0o 1810l
1885m 1887l 18A9m 18AAl 1920m 1923l 1927m 1929l 1932m 1933l 1939m 1940o 1946l 19DEo 1A00l 1A17m
1A19l 1A1Bm 1A1El 1A56m 1A57l 1A58m 1A61l 1A62m 1A63l 1A65m 1A6Dl 1A73m 1A80l 1AB0m 1B04l 1B34m
1B35l 1B36m 1B3Al 1B3Cm 1B3Dl 1B42m 1B43l 1B6Bm 1B74l 1B80m 1B82l 1BA2m 1BA6l 1BA8m 1BAAl 1BABm
1BAEl 1BE6m 1BE7l 1BE8m 1BEAl 1BEDm 1BEEl 1BEFm 1BF2l 1C2Cm 1C34l 1C36m 1C3Bl 1CD0m 1CD3l 1CD4m
1CE1l 1CE2m 1CE9l 1CEDm 1CEEl 1CF4m 1CF5l 1CF8m 1CFAl 1DC0m 1E01l 200Co 20D0m 2104o 214El 218Ao
2336l 237Bo 2395l 2396o 26ACl 26ADo 2800l 2900o 2C30l 2CE5o 2CECl 2CEFm 2CF3l 2CF9o 2D00l 2D7Fm
2D80l 2DE0m 2E00o 3005l 3008o 3021l 302Am 302El 3030o 3031l 3037o 303Bl 303Do 3041l 3099m 309Dl
30A0o 30A1l 30FBo 30FCl 31C0o 31F0l 4DC0o 4E00l A490o A4D0l A60Do A610l A66Fm A673o A674m A67Eo
A681l A69Em A6A0l A6F0m A6F2l A700o A723l A788o A789l A802m A803l A806m A807l A80Bm A80Cl A825m
A827l A828o A82Cm A830l A838o A840l A874o A880l A8C4m A8CEl A8E0m A8F2l A8FFm A900l A926m A92El
A947m A952l A980m A983l A9B3m A9B4l A9B6m A9BAl A9BCm A9BEl A9E5m A9E6l AA29m AA2Fl AA31m AA33l
AA35m AA40l AA43m AA44l AA4Cm AA4Dl AA7Cm AA7Dl AAB0m AAB1l AAB2m AAB5l AAB7m AAB9l AABEm AAC0l
AAC1m AAC2l AAECm AAEEl AAF6m AB01l AB6Ao ABC0l ABE5m ABE6l ABE8m ABE9l ABEDm ABF0l FB1Em FBB2q
FBC3o FE20m FE45o FE73q 10000l 10101o 10102l 10140o 1018Dl 10190o 101D0l 101FDm 10280l 102E0m
102E1g 10300l 10376m 10380l 10800r 1091Fo 10920r 10A01m 10A10r 10A38m 10A40r 10AE5m 10AEBr 10B39o
10B40r 10D00q 10D24m 10D30n 10D4Ar 10D69m 10D6Eo 10D6Fr 10E60n 10E80r 10EABm 10EADr 10EC2q 10ED0o
10EFAm 10F00r 10F30q 10F46m 10F51q 10F70r 10F82m 10F86r 11000l 11001m 11002l 11038m 11047l 11052o
11066l 11070m 11071l 11073m 11075l 1107Fm 11082l 110B3m 110B7l 110B9m 110BBl 110C2m 110D0l 11100m
11103l 11127m 1112Cl 1112Dm 11136l 11173m 11174l 11180m 11182l 111B6m 111BFl 111C9m 111CDl 111CFm
111D0l 1122Fm 11232l 11234m 11235l 11236m 11238l 1123Em 1123Fl 11241m 11280l 112DFm 112E0l 112E3m
112F0l 11300m 11302l 1133Bm 1133Dl 11340m 11341l 11366m 11380l 113BBm 113C2l 113CEm 113CFl 113D0m
113D1l 113D2m 113D3l 113E1m 11400l 11438m 11440l 11442m 11445l 11446m 11447l 1145Em 1145Fl 114B3m
114B9l 114BAm 114BBl 114BFm 114C1l 114C2m 114C4l 115B2m 115B8l 115BCm 115BEl 115BFm 115C1l 115DCm
11600l 11633m 1163Bl 1163Dm 1163El 1163Fm 11641l 11660o 11680l 116ABm 116ACl 116ADm 116AEl 116B0m
116B6l 116B7m 116B8l 1171Dm 1171El 1171Fm 11720l 11722m 11726l 11727m 11730l 1182Fm 11838l 11839m
1183Bl 1193Bm 1193Dl 1193Em 1193Fl 11943m 11944l 119D4m 119DCl 119E0m 119E1l 11A01m 11A07l 11A09m
11A0Bl 11A33m 11A39l 11A3Bm 11A3Fl 11A47m 11A50l 11A51m 11A57l 11A59m 11A5Cl 11A8Am 11A97l 11A98m
11A9Al 11B60m 11B61l 11B62m 11B65l 11B66m 11B67l 11C30m 11C3El 11C92m 11CA9l 11CAAm 11CB1l 11CB2m
11CB4l 11CB5m 11D00l 11D31m 11D46l 11D47m 11D50l 11D90m 11D93l 11D95m 11D96l 11D97m 11D98l 11EF3m
11EF5l 11F00m 11F02l 11F36m 11F3El 11F40m 11F41l 11F42m 11F43l 11F5Am 11FB0l 11FD5o 11FFFl 13440m
13441l 13447m 13460l 1611Em 1612Al 1612Dm 16130l 16AF0m 16AF5l 16B30m 16B37l 16F4Fm 16F50l 16F8Fm
16F93l 16FE2o 16FE3l 16FE4m 16FF0l 1BC9Dm 1BC9Fl 1CC00o 1CF00m 1CF50l 1D167m 1D16Al 1D17Bm 1D183l
1D185m 1D18Cl 1D1AAm 1D1AEl 1D1E9o 1D242m 1D245o 1D2C0l 1D300o 1D360l 1DA00m 1DA37l 1DA3Bm 1DA6Dl
1DA75m 1DA76l 1DA84m 1DA85l 1DA9Bm 1DB00o 1DF00l 1E000m 1E100l 1E130m 1E137l 1E2AEm 1E2C0l 1E2ECm
1E2F0l 1E2FFo 1E4D0l 1E4ECm 1E4F0l 1E5EEm 1E5F0l 1E6E3m 1E6E4l 1E6E6m 1E6E7l 1E6EEm 1E6F0l 1E6F5m
1E6FEl 1E800r 1E8D0m 1E922r 1E944m 1E94Br 1EC71q 1EEF0o 1F150l 1F16Do 1F170l 1F1ADo 1F1E6l 1F260o
20000l"

/-- How characters join their neighbours: `l`, `r` and `d` for joining to the left, to the right and
to both sides, `t` for transparent ones, `u` for the others. -/
def joiningRows : String := "
0u 300t 371u 483t 48Bu 591t 5BEu 5BFt 5C0u 5C1t 5C3u 5C4t 5C6u 5C7t 5D0u 610t 61Bu 620d 621u 622r
626d 627r 628d 629r 62Ad 62Fr 633d 640u 641d 648r 649d 64Bt 660u 66Ed 670t 671r 674u 679d 688r
69Ad 6C0r 6C1d 6C3r 6CCd 6CDr 6CEd 6CFr 6D0d 6D2r 6D4u 6D5r 6D6t 6DEu 6DFt 6E5u 6E7t 6E9u 6EAt
6EEr 6F0u 6FAd 6FDu 6FFd 700u 710r 711t 712d 715r 71Ad 71Er 71Fd 728r 729d 72Ar 72Bd 72Cr 72Dd
72Fr 730t 74Dr 74Ed 759r 75Cd 76Br 76Dd 771r 772d 773r 775d 778r 77Ad 780u 7A6t 7B1u 7CAd 7EBt
7F4u 7FDt 7FEu 816t 81Au 81Bt 824u 825t 828u 829t 830u 840r 841d 846r 848d 849r 84Ad 854r 855d
856r 859t 85Eu 860d 861u 862d 866u 867r 868d 869r 883u 886d 887u 889d 88Er 88Fd 897t 8A0d 8AAr
8ADu 8AEr 8AFd 8B1r 8B3d 8B9r 8BAd 8C9u 8CAt 903u 93At 93Bu 93Ct 93Du 941t 949u 94Dt 94Eu 951t
960u 962t 964u 981t 982u 9BCt 9BDu 9C1t 9C7u 9CDt 9CEu 9E2t 9E6u 9FEt A03u A3Ct A3Eu A41t A5Cu
A70t A72u A75t A76u A81t A83u ABCt ABDu AC1t AC9u ACDt AD0u AE2t AE6u AFAt B02u B3Ct B3Du B3Ft
B40u B41t B47u B4Dt B57u B62t B66u B82t B83u BC0t BC1u BCDt BD0u C00t C01u C04t C05u C3Ct C3Du
C3Et C41u C46t C58u C62t C66u C81t C82u CBCt CBDu CBFt CC0u CC6t CC7u CCCt CD5u CE2t CE6u D00t
D02u D3Bt D3Du D41t D46u D4Dt D4Eu D62t D66u D81t D82u DCAt DCFu DD2t DD8u E31t E32u E34t E3Fu
E47t E4Fu EB1t EB2u EB4t EBDu EC8t ED0u F18t F1Au F35t F36u F37t F38u F39t F3Au F71t F7Fu F80t
F85u F86t F88u F8Dt FBEu FC6t FC7u 102Dt 1031u 1032t 1038u 1039t 103Bu 103Dt 103Fu 1058t 105Au
105Et 1061u 1071t 1075u 1082t 1083u 1085t 1087u 108Dt 108Eu 109Dt 109Eu 135Dt 1360u 1712t 1715u
1732t 1734u 1752t 1760u 1772t 1780u 17B7t 17BEu 17C6t 17C7u 17C9t 17D4u 17DDt 17E0u 1807d 1808u
1820d 1880u 1885t 1887d 18A9t 18AAd 18B0u 1920t 1923u 1927t 1929u 1932t 1933u 1939t 1940u 1A17t
1A19u 1A1Bt 1A1Eu 1A56t 1A57u 1A58t 1A61u 1A62t 1A63u 1A65t 1A6Du 1A73t 1A80u 1AB0t 1B04u 1B34t
1B35u 1B36t 1B3Au 1B3Ct 1B3Du 1B42t 1B43u 1B6Bt 1B74u 1B80t 1B82u 1BA2t 1BA6u 1BA8t 1BAAu 1BABt
1BAEu 1BE6t 1BE7u 1BE8t 1BEAu 1BEDt 1BEEu 1BEFt 1BF2u 1C2Ct 1C34u 1C36t 1C3Bu 1CD0t 1CD3u 1CD4t
1CE1u 1CE2t 1CE9u 1CEDt 1CEEu 1CF4t 1CF5u 1CF8t 1CFAu 1DC0t 1E01u 20D0t 2104u 2CEFt 2CF3u 2D7Ft
2D80u 2DE0t 2E00u 302At 302Eu 3099t 309Du A66Ft A673u A674t A67Eu A69Et A6A0u A6F0t A6F2u A802t
A803u A806t A807u A80Bt A80Cu A825t A827u A82Ct A830u A840d A872l A873u A8C4t A8CEu A8E0t A8F2u
A8FFt A900u A926t A92Eu A947t A952u A980t A983u A9B3t A9B4u A9B6t A9BAu A9BCt A9BEu A9E5t A9E6u
AA29t AA2Fu AA31t AA33u AA35t AA40u AA43t AA44u AA4Ct AA4Du AA7Ct AA7Du AAB0t AAB1u AAB2t AAB5u
AAB7t AAB9u AABEt AAC0u AAC1t AAC2u AAECt AAEEu AAF6t AB01u ABE5t ABE6u ABE8t ABE9u ABEDt ABF0u
FB1Et FBB2u FE20t FE45u 101FDt 10280u 102E0t 102E1u 10376t 10380u 10A01t 10A10u 10A38t 10A40u
10AC0d 10AC5r 10AC6u 10AC7r 10AC8u 10AC9r 10ACBu 10ACDl 10ACEr 10AD3d 10AD7l 10AD8d 10ADDr 10ADEd
10AE1r 10AE2u 10AE4r 10AE5t 10AEBd 10AEFr 10AF0u 10B80d 10B81r 10B82d 10B83r 10B86d 10B89r 10B8Ad
10B8Cr 10B8Dd 10B8Er 10B90d 10B91r 10B99u 10BA9r 10BADd 10BAFu 10D00l 10D01d 10D22r 10D23d 10D24t
10D30u 10D69t 10D6Eu 10EABt 10EADu 10EC2r 10EC3d 10EC5u 10EC6d 10ED0u 10EFAt 10F00u 10F30d 10F33r
10F34d 10F45u 10F46t 10F51d 10F54r 10F55u 10F70d 10F74r 10F76d 10F82t 10F86u 10FB0d 10FB1u 10FB2d
10FB4r 10FB7u 10FB8d 10FB9r 10FBBd 10FBDr 10FBEd 10FC0u 10FC1d 10FC2r 10FC4d 10FC5u 10FC9r 10FCAd
10FCBl 10FE0u 11001t 11002u 11038t 11047u 11070t 11071u 11073t 11075u 1107Ft 11082u 110B3t 110B7u
110B9t 110BBu 110C2t 110D0u 11100t 11103u 11127t 1112Cu 1112Dt 11136u 11173t 11174u 11180t 11182u
111B6t 111BFu 111C9t 111CDu 111CFt 111D0u 1122Ft 11232u 11234t 11235u 11236t 11238u 1123Et 1123Fu
11241t 11280u 112DFt 112E0u 112E3t 112F0u 11300t 11302u 1133Bt 1133Du 11340t 11341u 11366t 11380u
113BBt 113C2u 113CEt 113CFu 113D0t 113D1u 113D2t 113D3u 113E1t 11400u 11438t 11440u 11442t 11445u
11446t 11447u 1145Et 1145Fu 114B3t 114B9u 114BAt 114BBu 114BFt 114C1u 114C2t 114C4u 115B2t 115B8u
115BCt 115BEu 115BFt 115C1u 115DCt 11600u 11633t 1163Bu 1163Dt 1163Eu 1163Ft 11641u 116ABt 116ACu
116ADt 116AEu 116B0t 116B6u 116B7t 116B8u 1171Dt 1171Eu 1171Ft 11720u 11722t 11726u 11727t 11730u
1182Ft 11838u 11839t 1183Bu 1193Bt 1193Du 1193Et 1193Fu 11943t 11944u 119D4t 119DCu 119E0t 119E1u
11A01t 11A0Bu 11A33t 11A39u 11A3Bt 11A3Fu 11A47t 11A50u 11A51t 11A57u 11A59t 11A5Cu 11A8At 11A97u
11A98t 11A9Au 11B60t 11B61u 11B62t 11B65u 11B66t 11B67u 11C30t 11C3Eu 11C3Ft 11C40u 11C92t 11CA9u
11CAAt 11CB1u 11CB2t 11CB4u 11CB5t 11D00u 11D31t 11D46u 11D47t 11D50u 11D90t 11D93u 11D95t 11D96u
11D97t 11D98u 11EF3t 11EF5u 11F00t 11F02u 11F36t 11F3Eu 11F40t 11F41u 11F42t 11F43u 11F5At 11FB0u
13440t 13441u 13447t 13460u 1611Et 1612Au 1612Dt 16130u 16AF0t 16AF5u 16B30t 16B37u 16F4Ft 16F50u
16F8Ft 16F93u 16FE4t 16FF0u 1BC9Dt 1BC9Fu 1CF00t 1CF50u 1D167t 1D16Au 1D17Bt 1D183u 1D185t 1D18Cu
1D1AAt 1D1AEu 1D242t 1D245u 1DA00t 1DA37u 1DA3Bt 1DA6Du 1DA75t 1DA76u 1DA84t 1DA85u 1DA9Bt 1DB00u
1E000t 1E100u 1E130t 1E137u 1E2AEt 1E2C0u 1E2ECt 1E2F0u 1E4ECt 1E4F0u 1E5EEt 1E5F0u 1E6E3t 1E6E4u
1E6E6t 1E6E7u 1E6EEt 1E6F0u 1E6F5t 1E6FEu 1E8D0t 1E922d 1E944t 1E950u"

end RealtimeClient.Idna
